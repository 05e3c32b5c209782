import FidoOnboard.Store.MetadataFrame

/-!
# `report_to_rendezvous`

Which vouchers the owner registers again: those not onboarded yet whose wait is
over or was never set. One backend reads attributes, the other asks the database.
-/
namespace FidoOnboard.Stores
open Assoc

/-- The filter built in `report_to_rendezvous`. -/
def reportFilter (now : Instant) : Outcome StoreError Files.FilterType := do
  let filter ← Files.queryData.neq now (.localKey .to2Performed : OwnerKey) (.bool true)
  .ok (filter.lt (.localKey .to0AcceptOwnerWaitSeconds : OwnerKey) (unixTimestamp now))

def reportQuery {V : Type} (codec : Serializable V) (scan : Listing Files.Inode) (now : Instant) (folder : Files.Folder) :
    Outcome StoreError (List V) := do
  let filter ← reportFilter now
  Files.query codec scan filter folder

/-! ## What is known of the vouchers -/

structure BookEntry (V : Type) where
  value : V
  to2Performed : Option Bool
  wait : Option Int

/-- Not onboarded, and its wait absent or over. -/
def BookEntry.due {V : Type} (now : Int) (entry : BookEntry V) : Bool :=
  entry.to2Performed != some true && entry.wait.all fun t => decide (t < now)

abbrev Books (V : Type) := GuidKey → Option (BookEntry V)

section Books

variable {V : Type} (codec : Serializable V)

/-- One call entered. The directory overwrites a voucher that is there, the database keeps it. -/
def Books.enter (overwrites : Bool) (books : Books V) : Instant × OwnerCall V → Books V
  | (_, .storeData key value) =>
    match readBack codec value with
    | some value' =>
      if overwrites || (books key).isNone then Function.update books key (some ⟨value', none, none⟩) else books
    | none => books
  | (_, .storeMetadata key (.localKey .to2Performed) (.bool b)) =>
    Function.update books key ((books key).map fun entry => { entry with to2Performed := some b })
  | (now, .storeMetadata key (.localKey .to0AcceptOwnerWaitSeconds) (.duration d)) =>
    match expiry now d with
    | .ok t => Function.update books key ((books key).map fun entry => { entry with wait := some t })
    | _ => books
  | (_, .destroyData key) => Function.update books key none
  | _ => books

def booksAfter (overwrites : Bool) (calls : List (Instant × OwnerCall V)) : Books V :=
  calls.foldl (Books.enter codec overwrites) fun _ => none

/-- A voucher is stored while it is absent, or as it is already there. -/
def Books.Fresh (books : Books V) : Instant × OwnerCall V → Prop
  | (_, .storeData key value) =>
    books key = none ∨ books key = (readBack codec value).map fun value' => ⟨value', none, none⟩
  | _ => True

def Books.AllFresh : Books V → List (Instant × OwnerCall V) → Prop
  | _, [] => True
  | books, call :: calls => books.Fresh codec call ∧ Books.AllFresh (books.enter codec true call) calls

theorem enter_fresh {books : Books V} {call : Instant × OwnerCall V} (h : books.Fresh codec call) :
    books.enter codec true call = books.enter codec false call := by
  obtain ⟨now, call⟩ := call
  cases call with
  | storeData key value =>
      simp only [Books.enter]
      cases hread : readBack codec value with
      | none => rfl
      | some value' =>
          simp only [Books.Fresh, hread, Option.map_some] at h
          rcases h with hnone | hsame
          · simp [hnone]
          · have hupdate : Function.update books key (some ⟨value', none, none⟩) = books := by
              rw [← hsame, Function.update_eq_self]
            simp [hsame, hupdate]
  | storeMetadata key m value => rcases m with _ | _ | _ <;> cases value <;> rfl
  | destroyMetadata key m => rfl
  | destroyData key => rfl

theorem booksAfter_fresh {calls : List (Instant × OwnerCall V)} (h : Books.AllFresh codec (fun _ => none) calls) :
    booksAfter codec true calls = booksAfter codec false calls := by
  have hrun : ∀ (calls : List (Instant × OwnerCall V)) books, Books.AllFresh codec books calls →
      calls.foldl (Books.enter codec true) books = calls.foldl (Books.enter codec false) books := by
    intro calls
    induction calls with
    | nil => exact fun _ _ => rfl
    | cons call calls ih =>
        rintro books ⟨hcall, hcalls⟩
        rw [enter_fresh codec hcall] at hcalls
        rw [List.foldl_cons, List.foldl_cons, enter_fresh codec hcall]
        exact ih _ hcalls
  exact hrun calls _ h

end Books

/-! ## What the backends hold -/

variable {P : Platform} {fromPem : Bytes → Outcome Error (OwnershipVoucher P)}

/-- The three calls, with metadata of its own type. -/
def OwnerCall.Ordinary : OwnerCall (OwnershipVoucher P) → Prop
  | .storeData key v => OwnVoucher key v
  | .storeMetadata _ (.localKey .to2Performed) (.bool _) => True
  | .storeMetadata _ (.localKey .to0AcceptOwnerWaitSeconds) (.duration _) => True
  | .destroyData _ => True
  | _ => False

def to2Xattr : Text := Files.formatXattr (MetadataKey.localKey .to2Performed : OwnerKey).toKey

def to0Xattr : Text := Files.formatXattr (MetadataKey.localKey .to0AcceptOwnerWaitSeconds : OwnerKey).toKey

theorem to2Xattr_ne_to0Xattr : to2Xattr ≠ to0Xattr := by decide

structure FileShows (P : Platform) (file : Files.Inode) (entry : BookEntry (OwnershipVoucher P)) : Prop where
  value : (vouchers P).deserializeData file.contents = .ok entry.value
  to2 : file.xattrs to2Xattr = entry.to2Performed.map boolText
  wait : file.xattrs to0Xattr = entry.wait.map toLeBytes
  bounded : ∀ t ∈ entry.wait, -2 ^ 63 ≤ t ∧ t < 2 ^ 63

theorem FileShows.mark {file : Files.Inode} {entry : BookEntry (OwnershipVoucher P)} (h : FileShows P file entry)
    (b : Bool) :
    FileShows P { file with xattrs := Function.update file.xattrs to2Xattr (some (boolText b)) }
      { entry with to2Performed := some b } where
  value := h.value
  to2 := by simp only [Function.update_self, Option.map_some]
  wait := by simp only [Function.update_of_ne to2Xattr_ne_to0Xattr.symm, h.wait]
  bounded := h.bounded

theorem FileShows.defer {file : Files.Inode} {entry : BookEntry (OwnershipVoucher P)} (h : FileShows P file entry)
    {t : Int} (ht : -2 ^ 63 ≤ t ∧ t < 2 ^ 63) :
    FileShows P { file with xattrs := Function.update file.xattrs to0Xattr (some (toLeBytes t)) }
      { entry with wait := some t } where
  value := h.value
  to2 := by simp only [Function.update_of_ne to2Xattr_ne_to0Xattr, h.to2]
  wait := by simp only [Function.update_self, Option.map_some]
  bounded t' ht' := Option.some.inj ht' ▸ ht

structure RowShows (P : Platform) (row : Row OwnerColumns) (entry : BookEntry (OwnershipVoucher P)) : Prop where
  value : (vouchers P).deserializeData row.contents = .ok entry.value
  columns : row.columns = ⟨entry.to2Performed, entry.wait⟩

theorem RowShows.mark {row : Row OwnerColumns} {entry : BookEntry (OwnershipVoucher P)} (h : RowShows P row entry)
    (b : Bool) :
    RowShows P { row with columns := ⟨some b, row.columns.to0AcceptOwnerWaitSeconds⟩ }
      { entry with to2Performed := some b } where
  value := h.value
  columns := by rw [h.columns]

theorem RowShows.defer {row : Row OwnerColumns} {entry : BookEntry (OwnershipVoucher P)} (h : RowShows P row entry)
    (t : Int) :
    RowShows P { row with columns := ⟨row.columns.to2Performed, some t⟩ }
      { entry with wait := some t } where
  value := h.value
  columns := by rw [h.columns]

/-- A finite map that holds the books, under the names of the guids and no others. -/
structure Holds {β : Type} (name : GuidKey → Text) (R : β → BookEntry (OwnershipVoucher P) → Prop)
    (m : AList fun _ : Text => β) (books : Books (OwnershipVoucher P)) : Prop where
  shows : Represents name R m books
  named : ∀ path ∈ m, ∃ key, path = name key

namespace Holds

variable {β : Type} {name : GuidKey → Text} {R : β → BookEntry (OwnershipVoucher P) → Prop}
  {m : AList fun _ : Text => β} {books : Books (OwnershipVoucher P)}

theorem empty : Holds name R (∅ : AList fun _ : Text => β) fun _ => none where
  shows := Represents.empty
  named _ h := absurd h (AList.notMem_empty _)

theorem insert (hname : Function.Injective name) (h : Holds name R m books) {key : GuidKey} {b : β}
    {entry : BookEntry (OwnershipVoucher P)} (hR : R b entry) :
    Holds name R (m.insert (name key) b) (Function.update books key (some entry)) where
  shows := h.shows.insert hname hR
  named path hpath := by
    rcases AList.mem_insert _ |>.mp hpath with rfl | hold
    · exact ⟨key, rfl⟩
    · exact h.named path hold

theorem erase (hname : Function.Injective name) (h : Holds name R m books) (key : GuidKey) :
    Holds name R (m.erase (name key)) (Function.update books key none) where
  shows := h.shows.erase hname key
  named path hpath := h.named path (AList.mem_erase.mp hpath).2

theorem modify (hname : Function.Injective name) (h : Holds name R m books) {key : GuidKey} {b b' : β}
    {u : BookEntry (OwnershipVoucher P) → BookEntry (OwnershipVoucher P)} (hb : m.lookup (name key) = some b)
    (hR : ∀ entry, R b entry → R b' (u entry)) :
    Holds name R (m.insert (name key) b') (Function.update books key ((books key).map u)) where
  shows := h.shows.modify hname hb hR
  named path hpath := by
    rcases AList.mem_insert _ |>.mp hpath with rfl | hold
    · exact ⟨key, rfl⟩
    · exact h.named path hold

/-- The entries of the map, each with the key it stands under. -/
theorem listed (hname : Function.Injective name) (h : Holds name R m books)
    {entries : List (Σ _ : Text, β)} (hperm : entries.Perm m.entries) :
    ∃ all : List (GuidKey × BookEntry (OwnershipVoucher P)), List.Forall₂ (fun e p => R e.2 p.2) entries all ∧
      (all.map Prod.fst).Nodup ∧ ∀ p, p ∈ all ↔ books p.1 = some p.2 := by
  have hall : ∀ entries : List (Σ _ : Text, β), (∀ e ∈ entries, e ∈ m.entries) →
      ∃ all : List (GuidKey × BookEntry (OwnershipVoucher P)), List.Forall₂ (fun e p => R e.2 p.2) entries all ∧
        all.map (fun p => name p.1) = entries.map Sigma.fst ∧ ∀ p ∈ all, books p.1 = some p.2 := by
    intro entries
    induction entries with
    | nil => exact fun _ => ⟨[], .nil, rfl, by simp⟩
    | cons e entries ih =>
        intro hmem
        obtain ⟨all, hshown, hnames, hbooks⟩ := ih fun e' he' => hmem e' (List.mem_cons_of_mem _ he')
        have hlookup : m.lookup e.1 = some e.2 := AList.mem_lookup_iff.mpr (hmem e List.mem_cons_self)
        obtain ⟨key, hkey⟩ := h.named e.1 (AList.lookup_isSome.mp (by rw [hlookup]; rfl))
        rw [hkey] at hlookup
        cases hbook : books key with
        | none =>
            rw [h.shows.absent hbook] at hlookup
            cases hlookup
        | some entry =>
            obtain ⟨b, hb, hR⟩ := h.shows.present hbook
            obtain rfl := Option.some.inj (hb.symm.trans hlookup)
            refine ⟨(key, entry) :: all, .cons hR hshown, by rw [List.map_cons, List.map_cons, hnames, hkey], ?_⟩
            intro p hp
            rcases List.mem_cons.mp hp with rfl | hp
            · exact hbook
            · exact hbooks p hp
  obtain ⟨all, hshown, hnames, hbooks⟩ := hall entries fun e he => hperm.mem_iff.mp he
  have hnodup : (entries.map Sigma.fst).Nodup := (hperm.map Sigma.fst).nodup_iff.mpr m.nodupKeys
  refine ⟨all, hshown, ?_, fun p => ⟨hbooks p, fun hp => ?_⟩⟩
  · rw [← hnames] at hnodup
    exact List.Nodup.of_map name (by rwa [List.map_map])
  · obtain ⟨b, hb, _⟩ := h.shows.present hp
    have hmem : name p.1 ∈ entries.map Sigma.fst :=
      List.mem_map_of_mem (hperm.mem_iff.mpr (AList.mem_lookup_iff.mp hb))
    rw [← hnames] at hmem
    obtain ⟨q, hq, hsame⟩ := List.mem_map.mp hmem
    have hkey : q.1 = p.1 := hname hsame
    have hentry : q.2 = p.2 := Option.some.inj ((hbooks q hq).symm.trans (hkey ▸ hp))
    exact Prod.ext hkey hentry ▸ hq

theorem congr {m' : AList fun _ : Text => β} (h : Holds name R m books)
    (hsame : ∀ key, m'.lookup (name key) = m.lookup (name key)) (hmem : ∀ path ∈ m', path ∈ m) :
    Holds name R m' books where
  shows key := (hsame key) ▸ h.shows key
  named path hpath := h.named path (hmem path hpath)

end Holds

/-! ## One call on either backend -/

theorem OwnVoucher.reads {key : GuidKey} {v : OwnershipVoucher P} (h : OwnVoucher key v) :
    ∃ raw v', (vouchers P).serializeData v = .ok raw ∧ (vouchers P).deserializeData raw = .ok v' ∧
      readBack (vouchers P) v = some v' ∧ v'.header.cachedGuid = key.guid := by
  obtain ⟨⟨raw, v', hser, hdec, hsame, _⟩, hguid⟩ := h
  have hser' : (vouchers P).serializeData v = .ok raw := hser
  have hdec' : (vouchers P).deserializeData raw = .ok v' := hdec
  exact ⟨raw, v', hser', hdec', by simp only [readBack, hser', hdec'], hsame.header.guid.trans hguid⟩

abbrev FolderHolds (folder : Files.Folder) (books : Books (OwnershipVoucher P)) : Prop :=
  Holds (fun key => Files.getPath key.toText) (FileShows P) folder books

abbrev TableHolds (table : Table OwnerColumns) (books : Books (OwnershipVoucher P)) : Prop :=
  Holds GuidKey.toText (RowShows P) table books

theorem getPath_injective : Function.Injective fun key : GuidKey => Files.getPath key.toText :=
  DirectoryStore.getPath_injective

section Folder

variable {folder : Files.Folder} {books : Books (OwnershipVoucher P)}

theorem FolderHolds.storeData (h : FolderHolds folder books) {key : GuidKey} {v : OwnershipVoucher P}
    (hown : OwnVoucher key v) (now : Instant) :
    FolderHolds (OwnerCall.onFolder (vouchers P) folder (now, .storeData key v))
      (books.enter (vouchers P) true (now, .storeData key v)) := by
  obtain ⟨raw, v', hser, hdec, hread, _⟩ := hown.reads
  have hnoTemp : folder.lookup (Files.tempPath key.toText) = none := by
    refine AList.lookup_eq_none.mpr fun hmem => ?_
    obtain ⟨key', hkey'⟩ := h.named _ hmem
    exact Files.getPath_ne_temp key' key hkey'.symm
  have hwritten : FolderHolds
      ((folder.insert (Files.tempPath key.toText) ⟨raw, Files.noXattrs⟩).erase (Files.tempPath key.toText))
      books := by
    refine h.congr (fun key' => ?_) fun path hpath => ?_
    · have hne := Files.getPath_ne_temp key' key
      rw [AList.lookup_erase_ne hne, AList.lookup_insert_ne hne]
    · obtain ⟨hne, hmem⟩ := AList.mem_erase.mp hpath
      exact (AList.mem_insert _ |>.mp hmem).resolve_left hne
  simp only [OwnerCall.onFolder, Files.storeData, hser, Files.writeNew, hnoTemp, Files.rename,
    AList.lookup_insert, Books.enter, hread, Bool.true_or, if_true]
  exact hwritten.insert getPath_injective ⟨hdec, rfl, rfl, by simp⟩

theorem FolderHolds.to2Performed (h : FolderHolds folder books) (now : Instant) (key : GuidKey) (b : Bool) :
    FolderHolds
      (OwnerCall.onFolder (vouchers P) folder (now, .storeMetadata key (.localKey .to2Performed) (.bool b)))
      (books.enter (vouchers P) true (now, .storeMetadata key (.localKey .to2Performed) (.bool b))) := by
  simp only [OwnerCall.onFolder, Files.storeMetadata, MetadataValue.toStored, Books.enter]
  cases hfile : folder.lookup (Files.getPath key.toText) with
  | none =>
      rw [h.shows.update_vacant _ hfile]
      exact h
  | some file =>
      exact h.modify getPath_injective hfile fun entry hshows => hshows.mark b

theorem FolderHolds.wait (h : FolderHolds folder books) (now : Instant) (key : GuidKey) (d : Int) :
    FolderHolds
      (OwnerCall.onFolder (vouchers P) folder
        (now, .storeMetadata key (.localKey .to0AcceptOwnerWaitSeconds) (.duration d)))
      (books.enter (vouchers P) true
        (now, .storeMetadata key (.localKey .to0AcceptOwnerWaitSeconds) (.duration d))) := by
  simp only [OwnerCall.onFolder, Files.storeMetadata, MetadataValue.toStored, toStored, Books.enter]
  cases hfile : folder.lookup (Files.getPath key.toText) with
  | none =>
      cases hexpiry : expiry now d with
      | ok t =>
          dsimp only
          rw [h.shows.update_vacant _ hfile]
          exact h
      | err e => exact h
      | panic => exact h
  | some file =>
      cases hexpiry : expiry now d with
      | ok t =>
          exact h.modify getPath_injective hfile fun entry hshows => hshows.defer (expiry_bounds hexpiry)
      | err e => exact h
      | panic => exact h

theorem FolderHolds.destroyData (h : FolderHolds folder books) (now : Instant) (key : GuidKey) :
    FolderHolds (OwnerCall.onFolder (vouchers P) folder (now, .destroyData key))
      (books.enter (vouchers P) true (now, .destroyData key)) := by
  simp only [OwnerCall.onFolder, Files.destroyData, Books.enter]
  cases hfile : folder.lookup (Files.getPath key.toText) with
  | none =>
      have hsame : Function.update books key none = books := by
        rw [← h.shows.vacant hfile, Function.update_eq_self]
      rw [hsame]
      exact h
  | some file => exact h.erase getPath_injective key

theorem FolderHolds.call (h : FolderHolds folder books) {call : Instant × OwnerCall (OwnershipVoucher P)}
    (hcall : call.2.Ordinary) :
    FolderHolds (OwnerCall.onFolder (vouchers P) folder call) (books.enter (vouchers P) true call) := by
  obtain ⟨now, call⟩ := call
  match call, hcall with
  | .storeData key v, hown => exact h.storeData hown now
  | .storeMetadata key (.localKey .to2Performed) (.bool b), _ => exact h.to2Performed now key b
  | .storeMetadata key (.localKey .to0AcceptOwnerWaitSeconds) (.duration d), _ => exact h.wait now key d
  | .destroyData key, _ => exact h.destroyData now key

end Folder

section Table

variable {table : Table OwnerColumns} {books : Books (OwnershipVoucher P)}

theorem TableHolds.storeData (h : TableHolds table books) {key : GuidKey} {v : OwnershipVoucher P}
    (hown : OwnVoucher key v) (now : Instant) :
    TableHolds (OwnerCall.onTable (voucherTable P fromPem) table (now, .storeData key v))
      (books.enter (vouchers P) false (now, .storeData key v)) := by
  obtain ⟨raw, v', hser, hdec, _, htable⟩ := onTable_storeData fromPem table hown
  obtain ⟨raw', v'', hser', hdec', hread, _⟩ := hown.reads
  obtain rfl := Outcome.ok.inj (hser.symm.trans hser')
  simp only [OwnerCall.onTable, htable, Books.enter, hread, Bool.false_or]
  cases hbook : books key with
  | none =>
      rw [if_neg (AList.lookup_eq_none.mp (h.shows.absent hbook)), if_pos Option.isNone_none]
      exact h.insert toText_injective ⟨hdec', rfl⟩
  | some entry =>
      obtain ⟨row, hrow, _⟩ := h.shows.present hbook
      rw [if_pos (AList.lookup_isSome.mp (by rw [hrow]; rfl)), if_neg (by simp)]
      exact h

/-- Columns are changed as the books are. -/
theorem TableHolds.update (h : TableHolds table books) (key : GuidKey)
    (update : OwnerColumns → OwnerColumns)
    (u : BookEntry (OwnershipVoucher P) → BookEntry (OwnershipVoucher P))
    (hu : ∀ row entry, RowShows P row entry →
      RowShows P { row with columns := update row.columns } (u entry)) :
    TableHolds (Db.updateColumns key.toText update table)
      (Function.update books key ((books key).map u)) := by
  unfold Db.updateColumns
  cases hrow : table.lookup key.toText with
  | none =>
      rw [h.shows.update_vacant _ hrow]
      exact h
  | some row => exact h.modify toText_injective hrow (hu row)

theorem TableHolds.call (h : TableHolds table books) {call : Instant × OwnerCall (OwnershipVoucher P)}
    (hcall : call.2.Ordinary) :
    TableHolds (OwnerCall.onTable (voucherTable P fromPem) table call)
      (books.enter (vouchers P) false call) := by
  obtain ⟨now, call⟩ := call
  match call, hcall with
  | .storeData key v, hown => exact h.storeData hown now
  | .storeMetadata key (.localKey .to2Performed) (.bool b), _ =>
      exact h.update key (fun columns => ⟨some b, columns.to0AcceptOwnerWaitSeconds⟩)
        (fun entry => { entry with to2Performed := some b }) fun row entry hshows => hshows.mark b
  | .storeMetadata key (.localKey .to0AcceptOwnerWaitSeconds) (.duration d), _ =>
      simp only [OwnerCall.onTable, OwnerTable.storeMetadata, OwnerTable.parseI64, toText, Books.enter]
      cases expiry now d with
      | ok t =>
          exact h.update key (fun columns => ⟨columns.to2Performed, some t⟩)
            (fun entry => { entry with wait := some t }) fun row entry hshows => hshows.defer t
      | err e => exact h
      | panic => exact h
  | .destroyData key, _ => exact h.erase toText_injective key

end Table

/-- Every voucher is under the guid of its header. -/
def Owned (books : Books (OwnershipVoucher P)) : Prop :=
  ∀ key entry, books key = some entry → entry.value.header.cachedGuid = key.guid

theorem Owned.update {books : Books (OwnershipVoucher P)} (h : Owned books) {key : GuidKey}
    {held : Option (BookEntry (OwnershipVoucher P))}
    (hheld : ∀ entry, held = some entry → entry.value.header.cachedGuid = key.guid) :
    Owned (Function.update books key held) := by
  intro key' entry hentry
  by_cases hkey : key' = key
  · subst hkey
    rw [Function.update_self] at hentry
    exact hheld entry hentry
  · rw [Function.update_of_ne hkey] at hentry
    exact h key' entry hentry

theorem Owned.enter {books : Books (OwnershipVoucher P)} (h : Owned books) (overwrites : Bool)
    {call : Instant × OwnerCall (OwnershipVoucher P)} (hcall : call.2.Ordinary) :
    Owned (books.enter (vouchers P) overwrites call) := by
  have hmapped : ∀ key (u : BookEntry (OwnershipVoucher P) → BookEntry (OwnershipVoucher P)),
      (∀ entry, (u entry).value = entry.value) → Owned (Function.update books key ((books key).map u)) := by
    intro key u hu
    refine h.update fun entry hentry => ?_
    obtain ⟨entry', hentry', rfl⟩ := Option.map_eq_some_iff.mp hentry
    rw [hu]
    exact h key entry' hentry'
  obtain ⟨now, call⟩ := call
  match call, hcall with
  | .storeData key v, hown =>
      obtain ⟨_, v', _, _, hread, hguid⟩ := OwnVoucher.reads hown
      simp only [Books.enter, hread]
      split
      · exact h.update fun entry hentry => Option.some.inj hentry ▸ hguid
      · exact h
  | .storeMetadata key (.localKey .to2Performed) (.bool b), _ => exact hmapped key _ fun _ => rfl
  | .storeMetadata key (.localKey .to0AcceptOwnerWaitSeconds) (.duration d), _ =>
      simp only [Books.enter]
      split
      · exact hmapped key _ fun _ => rfl
      · exact h
  | .destroyData key, _ => exact h.update fun entry hentry => by cases hentry

/-- Both backends hold their books after every run. -/
theorem runs_hold (fromPem : Bytes → Outcome Error (OwnershipVoucher P))
    {calls : List (Instant × OwnerCall (OwnershipVoucher P))}
    (hcalls : ∀ call ∈ calls, call.2.Ordinary) :
    FolderHolds (folderAfter (vouchers P) calls) (booksAfter (vouchers P) true calls) ∧
      TableHolds (tableAfter (voucherTable P fromPem) calls) (booksAfter (vouchers P) false calls) ∧
      Owned (booksAfter (vouchers P) true calls) ∧ Owned (booksAfter (vouchers P) false calls) := by
  have hrun : ∀ folder table (books books' : Books (OwnershipVoucher P)), FolderHolds folder books →
      TableHolds table books' → Owned books → Owned books' →
      FolderHolds (calls.foldl (OwnerCall.onFolder (vouchers P)) folder)
          (calls.foldl (Books.enter (vouchers P) true) books) ∧
        TableHolds (calls.foldl (OwnerCall.onTable (voucherTable P fromPem)) table)
          (calls.foldl (Books.enter (vouchers P) false) books') ∧
        Owned (calls.foldl (Books.enter (vouchers P) true) books) ∧
        Owned (calls.foldl (Books.enter (vouchers P) false) books') := by
    induction calls with
    | nil => exact fun _ _ _ _ hfolder htable howned howned' => ⟨hfolder, htable, howned, howned'⟩
    | cons call calls ih =>
        intro folder table books books' hfolder htable howned howned'
        have hcall := hcalls call List.mem_cons_self
        exact ih (fun c hc => hcalls c (List.mem_cons_of_mem _ hc)) _ _ _ _ (hfolder.call hcall)
          (htable.call hcall) (howned.enter true hcall) (howned'.enter false hcall)
  exact hrun ∅ ∅ _ _ Holds.empty Holds.empty (by simp [Owned]) (by simp [Owned])

/-! ## What the queries find -/

theorem reportFilter_eq (now : Instant) : reportFilter now =
    .ok ⟨[((MetadataKey.localKey .to2Performed : OwnerKey).toKey, boolText true)],
      [((MetadataKey.localKey .to0AcceptOwnerWaitSeconds : OwnerKey).toKey, unixTimestamp now)]⟩ := rfl

/-- The filter on a file that shows an entry. -/
theorem selects_due {file : Files.Inode} {entry : BookEntry (OwnershipVoucher P)} (h : FileShows P file entry)
    (max : Int) :
    Files.selects ⟨[((MetadataKey.localKey .to2Performed : OwnerKey).toKey, boolText true)],
      [((MetadataKey.localKey .to0AcceptOwnerWaitSeconds : OwnerKey).toKey, max)]⟩ file =
        .ok (entry.due max) := by
  have hdiffers : Files.differs file ((MetadataKey.localKey .to2Performed : OwnerKey).toKey, boolText true) =
      (entry.to2Performed != some true) := by
    have hto2 : file.xattrs (Files.formatXattr (MetadataKey.localKey .to2Performed : OwnerKey).toKey) =
      entry.to2Performed.map boolText := h.to2
    simp only [Files.differs, hto2]
    rcases entry.to2Performed with _ | _ | _ <;> rfl
  have hless : Files.isLess file ((MetadataKey.localKey .to0AcceptOwnerWaitSeconds : OwnerKey).toKey, max) =
      .ok (entry.wait.all fun t => decide (t < max)) := by
    have hwait : file.xattrs (Files.formatXattr (MetadataKey.localKey .to0AcceptOwnerWaitSeconds : OwnerKey).toKey) =
      entry.wait.map toLeBytes := h.wait
    simp only [Files.isLess, hwait]
    cases hentry : entry.wait with
    | none => rfl
    | some t =>
        obtain ⟨hlow, hhigh⟩ := h.bounded t hentry
        simp [toLeBytes_length, i64FromLeBytes_toLeBytes hlow hhigh]
  simp only [Files.selects, List.any_cons, List.any_nil, Bool.or_false, hdiffers, Files.anyLess, hless,
    Outcome.ok_bind, BookEntry.due]
  cases entry.to2Performed != some true <;> rfl

/-- The vouchers due among those listed. -/
def dueValues {V : Type} (now : Int) (all : List (GuidKey × BookEntry V)) : List V :=
  (all.filter fun p => p.2.due now).map fun p => p.2.value

theorem queryEntries_due {entries : List (Σ _ : Text, Files.Inode)}
    {all : List (GuidKey × BookEntry (OwnershipVoucher P))} (max : Int)
    (h : List.Forall₂ (fun e p => FileShows P e.2 p.2) entries all) :
    Files.queryEntries (vouchers P)
      ⟨[((MetadataKey.localKey .to2Performed : OwnerKey).toKey, boolText true)],
        [((MetadataKey.localKey .to0AcceptOwnerWaitSeconds : OwnerKey).toKey, max)]⟩ entries =
      .ok (dueValues max all) := by
  induction h with
  | nil => rfl
  | @cons e p entries all hshows _ ih =>
      simp only [Files.queryEntries, selects_due hshows, ih, Outcome.ok_bind, hshows.value, dueValues,
        List.filter_cons]
      cases p.2.due max <;> rfl

theorem wanted_iff_due {row : Row OwnerColumns} {entry : BookEntry (OwnershipVoucher P)} (h : RowShows P row entry)
    (max : Int) : Wanted false max row.columns ↔ entry.due max = true := by
  rw [h.columns]
  obtain ⟨value, to2, wait⟩ := entry
  rcases to2 with _ | _ | _ <;> cases wait <;> simp [Wanted, BookEntry.due]

theorem readRows_due {entries : List (Σ _ : Text, Row OwnerColumns)}
    {all : List (GuidKey × BookEntry (OwnershipVoucher P))} {max : Int}
    {selected : (Σ _ : Text, Row OwnerColumns) → Bool}
    (hselected : ∀ e ∈ entries, selected e = true ↔ Wanted false max e.2.columns)
    (h : List.Forall₂ (fun e p => RowShows P e.2 p.2) entries all) :
    OwnerTable.readRows (vouchers P) (entries.filter selected) = .ok (dueValues max all) := by
  induction h with
  | nil => rfl
  | @cons e p entries all hshows _ ih =>
      have hrest := ih fun e' he' => hselected e' (List.mem_cons_of_mem _ he')
      have hhere : selected e = p.2.due max := by
        rw [Bool.eq_iff_iff, hselected e List.mem_cons_self]
        exact wanted_iff_due hshows max
      simp only [List.filter_cons, hhere, dueValues]
      cases p.2.due max with
      | true =>
          simp only [if_true, OwnerTable.readRows, hshows.value, hrest, Outcome.mapErr_ok, Outcome.ok_bind,
            List.map_cons]
          rfl
      | false => exact hrest

/-- The vouchers that are due, each once. -/
structure Selected (books : Books (OwnershipVoucher P)) (now : Int) (values : List (OwnershipVoucher P)) :
    Prop where
  nodup : values.Nodup
  exactly : ∀ v, v ∈ values ↔ ∃ key entry, books key = some entry ∧ entry.value = v ∧ entry.due now = true

theorem dueValues_selected {books : Books (OwnershipVoucher P)} (howned : Owned books)
    {all : List (GuidKey × BookEntry (OwnershipVoucher P))} (hnodup : (all.map Prod.fst).Nodup)
    (hall : ∀ p, p ∈ all ↔ books p.1 = some p.2) (now : Int) : Selected books now (dueValues now all) := by
  constructor
  · refine (hnodup.of_map.filter _).map_on fun p hp q hq hvalue => ?_
    have hp' := (hall p).mp (List.mem_filter.mp hp).1
    have hq' := (hall q).mp (List.mem_filter.mp hq).1
    have hkey : p.1 = q.1 := GuidKey.ext (by rw [← howned _ _ hp', ← howned _ _ hq', hvalue])
    rw [hkey, hq'] at hp'
    exact Prod.ext hkey (Option.some.inj hp').symm
  · intro v
    simp only [dueValues, List.mem_map, List.mem_filter, hall]
    constructor
    · rintro ⟨p, ⟨hbook, hdue⟩, rfl⟩
      exact ⟨p.1, p.2, hbook, rfl, hdue⟩
    · rintro ⟨key, entry, hbook, rfl, hdue⟩
      exact ⟨(key, entry), ⟨hbook, hdue⟩, rfl⟩

theorem FolderHolds.selected {folder : Files.Folder} {books : Books (OwnershipVoucher P)}
    (h : FolderHolds folder books) (howned : Owned books) (scan : Listing Files.Inode) (now : Instant) :
    ∃ values, reportQuery (vouchers P) scan now folder = .ok values ∧
      Selected books (unixTimestamp now) values := by
  obtain ⟨all, hshown, hnodup, hall⟩ := h.listed getPath_injective (scan.perm folder)
  refine ⟨_, ?_, dueValues_selected howned hnodup hall _⟩
  rw [reportQuery, reportFilter_eq, Outcome.ok_bind, Files.query, queryEntries_due _ hshown]

theorem TableHolds.selected {table : Table OwnerColumns} {books : Books (OwnershipVoucher P)}
    (h : TableHolds table books) (howned : Owned books) (now : Instant) :
    ∃ values, OwnerTable.queryOvsDb (vouchers P) now table = .ok values ∧
      Selected books (unixTimestamp now) values := by
  obtain ⟨all, hshown, hnodup, hall⟩ := h.listed toText_injective (.refl _)
  refine ⟨_, readRows_due (fun e he => ?_) hshown, dueValues_selected howned hnodup hall _⟩
  have hmem : e ∈ Db.selectOvTo2PerformedAndOvTo0LessThan false (unixTimestamp now) table ↔
      e ∈ table.entries ∧ Wanted false (unixTimestamp now) e.2.columns := Db.mem_select
  rw [Db.selectOvTo2PerformedAndOvTo0LessThan, List.mem_filter] at hmem
  simpa [he] using hmem

/-- The directory and the database find the same vouchers, those that are due, each once. -/
structure SameSelection (P : Platform) (fromPem : Bytes → Outcome Error (OwnershipVoucher P)) (scan : Listing Files.Inode)
    (calls : List (Instant × OwnerCall (OwnershipVoucher P))) (now : Instant) : Prop where
  found : ∃ files rows, reportQuery (vouchers P) scan now (folderAfter (vouchers P) calls) = .ok files ∧
    OwnerTable.queryOvsDb (vouchers P) now (tableAfter (voucherTable P fromPem) calls) = .ok rows ∧
    Selected (booksAfter (vouchers P) true calls) (unixTimestamp now) files ∧
    Selected (booksAfter (vouchers P) true calls) (unixTimestamp now) rows ∧ ∀ v, v ∈ files ↔ v ∈ rows

/-- In every run that stores no voucher over another one. -/
theorem re_registration_agrees (P : Platform) (fromPem : Bytes → Outcome Error (OwnershipVoucher P))
    (scan : Listing Files.Inode) {calls : List (Instant × OwnerCall (OwnershipVoucher P))}
    (hcalls : ∀ call ∈ calls, call.2.Ordinary) (hfresh : Books.AllFresh (vouchers P) (fun _ => none) calls)
    (now : Instant) : SameSelection P fromPem scan calls now := by
  obtain ⟨hfolder, htable, howned, howned'⟩ := runs_hold fromPem hcalls
  obtain ⟨files, hfiles, hselected⟩ := hfolder.selected howned scan now
  obtain ⟨rows, hrows, hselected'⟩ := htable.selected howned' now
  rw [← booksAfter_fresh (vouchers P) hfresh] at hselected'
  refine ⟨files, rows, hfiles, hrows, hselected, hselected', fun v => ?_⟩
  rw [hselected.exactly, hselected'.exactly]

open Reference VoucherChain

/-- A voucher of which nothing is known is due. -/
theorem re_registration_agrees_sample : ∃ v, sampleBlank = .ok v ∧
    SameSelection (reference .release) (fun _ => .panic) ⟨AList.entries, fun _ => .refl _⟩
      [(0, .storeData sampleGuid v)] 0 := by
  obtain ⟨v, hv, hreads, hguid⟩ := sampleBlank_readsBack
  have hcalls : ∀ call ∈ [((0 : Instant), OwnerCall.storeData sampleGuid v)], call.2.Ordinary := by
    simp [OwnerCall.Ordinary, OwnVoucher, hreads, hguid]
  exact ⟨v, hv, re_registration_agrees _ _ _ hcalls ⟨.inl rfl, trivial⟩ 0⟩

/-- Stored, onboarded, and stored once more. -/
def sampleAgain (v : OwnershipVoucher (reference .release)) :
    List (Instant × OwnerCall (OwnershipVoucher (reference .release))) :=
  [(0, .storeData sampleGuid v), (0, .storeMetadata sampleGuid (.localKey .to2Performed) (.bool true)),
    (0, .storeData sampleGuid v)]

/-- The file is new and due again, the row is as it was. -/
theorem re_registration_differs : ∃ v, sampleBlank = .ok v ∧
    ¬ SameSelection (reference .release) (fun _ => .panic) ⟨AList.entries, fun _ => .refl _⟩
      (sampleAgain v) 0 := by
  obtain ⟨v, hv, hreads, hguid⟩ := sampleBlank_readsBack
  have hown : OwnVoucher sampleGuid v := ⟨hreads, hguid⟩
  obtain ⟨raw, v', hser, hdec, hread, hguid'⟩ := hown.reads
  refine ⟨v, hv, ?_⟩
  rintro ⟨files, rows, _, hrows, hselected, _, hsame⟩
  have hcalls : ∀ call ∈ sampleAgain v, call.2.Ordinary := by simp [sampleAgain, OwnerCall.Ordinary, hown]
  obtain ⟨_, htable, _, howned⟩ := runs_hold (fun _ => .panic) hcalls
  obtain ⟨rows', hrows', hselected'⟩ := htable.selected howned 0
  obtain rfl := Outcome.ok.inj (hrows.symm.trans hrows')
  have hfile : booksAfter (vouchers _) true (sampleAgain v) sampleGuid = some ⟨v', none, none⟩ := by
    simp [booksAfter, sampleAgain, Books.enter, hread]
  have hrow : booksAfter (vouchers _) false (sampleAgain v) sampleGuid = some ⟨v', some true, none⟩ := by
    simp [booksAfter, sampleAgain, Books.enter, hread]
  have hin : v' ∈ files := (hselected.exactly v').mpr ⟨sampleGuid, _, hfile, rfl, rfl⟩
  obtain ⟨key, entry, hbook, hvalue, hdue⟩ := (hselected'.exactly v').mp ((hsame v').mp hin)
  obtain rfl : key = sampleGuid := GuidKey.ext ((howned key entry hbook).symm.trans (hvalue ▸ hguid'))
  obtain rfl := Option.some.inj (hrow.symm.trans hbook)
  cases hdue

end FidoOnboard.Stores
