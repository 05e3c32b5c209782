import FidoOnboard.Base.LexicalPath
import FidoOnboard.Client.ServiceInfo

/-!
# Where a file is put

The owner names the path. Behind a prefix it is made relative by dropping its first
byte, and joined to the prefix.
-/
namespace FidoOnboard.Client

/-- The parent directory. -/
def parent : List Char := ['.', '.']

/-- The place that an absolute path leads to, when no part of it is a link. -/
def resolved (path : String) : List (List Char) := LexicalPath.resolve parent (components path)

/-- `path` is the place of `pathPrefix`, or lies below it. -/
def Below (pathPrefix path : String) : Prop := resolved pathPrefix <+: resolved path

/-- No part leads up, and no slash follows another. -/
structure Plain (path : String) : Prop where
  up : parent ∉ components path
  slashes : ¬ ['/', '/'] <:+: path.toList

/-- What the prefix is for. -/
structure Confined (pathPrefix path destination : String) : Prop where
  below : Below pathPrefix destination
  followed : Plain path → components destination = components pathPrefix ++ components path

/-- The path starts with two slashes and lies below the prefix by itself, or it starts with
one and leads back down into the prefix as far as it has led out of it. -/
def Stays (pathPrefix path : String) : Prop :=
  if path.toList.tail.head? = some '/' then Below pathPrefix path
  else
    (resolved pathPrefix).drop ((resolved pathPrefix).length - (LexicalPath.normal parent (components path)).1) <+:
      (LexicalPath.normal parent (components path)).2

/-! ## Parts of joined paths -/

def parts (path : List Char) : List (List Char) := components (String.ofList path)

theorem parts_eq (path : List Char) :
    parts path = (path.splitOn '/').filter fun part => part ≠ [] && part ≠ ['.'] := by
  unfold parts components
  rw [String.toList_ofList]

theorem parts_toList (path : String) : parts path.toList = components path := by
  unfold parts
  rw [String.ofList_toList]

theorem parts_append_slash (first rest : List Char) : parts (first ++ '/' :: rest) = parts first ++ parts rest := by
  rw [parts_eq, parts_eq, parts_eq, List.splitOn_append_cons_self, List.filter_append]

theorem parts_nil : parts [] = [] := rfl

theorem parts_slash (rest : List Char) : parts ('/' :: rest) = parts rest := by
  have h := parts_append_slash [] rest
  rwa [List.nil_append, parts_nil, List.nil_append] at h

/-- A slash more or less between the two makes no difference. -/
theorem parts_join {base rest : List Char} (hrest : rest.head? ≠ some '/') :
    parts (join base rest) = parts base ++ parts rest := by
  unfold join
  rw [if_neg hrest]
  split
  next hbase =>
    rcases hbase with rfl | hlast
    · rfl
    · obtain ⟨init, rfl⟩ : ∃ init, base = init ++ ['/'] := by
        have hne : base ≠ [] := by
          rintro rfl
          simp at hlast
        refine ⟨base.dropLast, ?_⟩
        rw [List.getLast?_eq_some_getLast hne] at hlast
        rw [← Option.some.inj hlast, List.dropLast_append_getLast hne]
      rw [List.append_assoc, List.singleton_append, parts_append_slash, parts_append_slash, parts_nil, List.append_nil]
  next => exact parts_append_slash base rest

theorem isAbsolute_iff {path : String} : isAbsolute path = true ↔ path.toList = '/' :: path.toList.tail := by
  unfold isAbsolute
  rw [decide_eq_true_iff]
  cases path.toList with
  | nil => simp
  | cons c rest => simp

/-- An absolute path has the parts behind its first slash. -/
theorem components_tail {path : String} (h : isAbsolute path = true) : parts path.toList.tail = components path := by
  rw [← parts_toList path, isAbsolute_iff.mp h, parts_slash]
  rfl

theorem destinationPath_eq {path pathPrefix destination : String}
    (h : destinationPath path (some pathPrefix) = .ok destination) : isAbsolute path = true ∧
      destination = String.ofList (join pathPrefix.toList path.toList.tail) := by
  obtain ⟨_, habsolute, h₁⟩ := Outcome.bind_eq_ok.mp h
  exact ⟨Outcome.check_eq_ok.mp habsolute, (Outcome.ok.inj h₁).symm⟩

variable {path pathPrefix destination : String}

/-- Behind one slash, the path is appended. -/
theorem components_destination (h : destinationPath path (some pathPrefix) = .ok destination)
    (hrest : path.toList.tail.head? ≠ some '/') :
    components destination = components pathPrefix ++ components path := by
  obtain ⟨habsolute, rfl⟩ := destinationPath_eq h
  calc parts (join pathPrefix.toList path.toList.tail)
      = parts pathPrefix.toList ++ parts path.toList.tail := parts_join hrest
    _ = components pathPrefix ++ components path := by rw [parts_toList, components_tail habsolute]

/-- Behind two, the prefix is forgotten. -/
theorem components_escaped (h : destinationPath path (some pathPrefix) = .ok destination)
    (hrest : path.toList.tail.head? = some '/') : components destination = components path := by
  obtain ⟨habsolute, rfl⟩ := destinationPath_eq h
  have hjoin : join pathPrefix.toList path.toList.tail = path.toList.tail := by
    unfold join
    rw [if_pos hrest]
  calc parts (join pathPrefix.toList path.toList.tail)
      = parts path.toList.tail := by rw [hjoin]
    _ = components path := components_tail habsolute

theorem Plain.tail (h : Plain path) (habsolute : isAbsolute path = true) : path.toList.tail.head? ≠ some '/' := by
  intro hhead
  apply h.slashes
  rw [isAbsolute_iff.mp habsolute]
  cases htail : path.toList.tail with
  | nil => simp [htail] at hhead
  | cons c rest =>
      rw [htail] at hhead
      obtain rfl := Option.some.inj hhead
      exact List.IsPrefix.isInfix ⟨rest, rfl⟩

theorem destination_confined_iff (h : destinationPath path (some pathPrefix) = .ok destination) :
    Confined pathPrefix path destination ↔ Stays pathPrefix path := by
  have hbelow : Below pathPrefix destination ↔ Stays pathPrefix path := by
    unfold Stays
    split
    next hrest =>
      unfold Below resolved
      rw [components_escaped h hrest]
    next hrest =>
      unfold Below resolved
      rw [components_destination h hrest, LexicalPath.resolve_append]
      exact LexicalPath.prefix_follow_iff _ _
  constructor
  · intro hconfined
    exact hbelow.mp hconfined.below
  · intro hstays
    exact ⟨hbelow.mpr hstays, fun hplain => components_destination h (hplain.tail (destinationPath_eq h).1)⟩

theorem destination_confined_motd : ∃ destination,
    destinationPath "/etc/motd" (some "/sysroot") = .ok destination ∧ Confined "/sysroot" "/etc/motd" destination := by
  refine ⟨"/sysroot/etc/motd", rfl, ?_⟩
  apply (destination_confined_iff rfl).mpr
  unfold Stays Below
  decide +kernel

/-- Two slashes, and a part that leads up. -/
theorem destination_escapes :
    (destinationPath "//etc/shadow" (some "/sysroot") = .ok "/etc/shadow" ∧
      ¬ Confined "/sysroot" "//etc/shadow" "/etc/shadow") ∧
    destinationPath "/../etc/shadow" (some "/sysroot") = .ok "/sysroot/../etc/shadow" ∧
      ¬ Confined "/sysroot" "/../etc/shadow" "/sysroot/../etc/shadow" := by
  refine ⟨⟨rfl, fun h => absurd h.below ?_⟩, rfl, fun h => absurd h.below ?_⟩
  · unfold Below
    decide +kernel
  · unfold Below
    decide +kernel

end FidoOnboard.Client
