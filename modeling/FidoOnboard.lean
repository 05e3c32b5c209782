import FidoOnboard.Base.Outcome
import FidoOnboard.Base.BigEndian
import FidoOnboard.Base.PrefixNotation
import FidoOnboard.Base.Wire
import FidoOnboard.DataFormats.Constants
import FidoOnboard.Messages
import FidoOnboard.DataFormats.Errors
import FidoOnboard.DataFormats.CborParser
import FidoOnboard.DataFormats.CborGrammar
import FidoOnboard.DataFormats.CborCorrect
import FidoOnboard.DataFormats.CborExact
import FidoOnboard.DataFormats.CborPanics
import FidoOnboard.DataFormats.CborRoundTrip
import FidoOnboard.DataFormats.Platform
import FidoOnboard.DataFormats.Reference
import FidoOnboard.DataFormats.Types
import FidoOnboard.DataFormats.PublicKey
import FidoOnboard.DataFormats.OwnershipVoucher
import FidoOnboard.DataFormats.VoucherChain
import FidoOnboard.DataFormats.VoucherExtend
import FidoOnboard.DataFormats.VoucherRoundTrip
import FidoOnboard.DataFormats.VoucherStream
import FidoOnboard.DataFormats.To2Types
import FidoOnboard.HttpWrapper.Client
import FidoOnboard.Client.To2
import FidoOnboard.DataFormats.KeyExchange
import FidoOnboard.DataFormats.Eat
import FidoOnboard.HttpWrapper.Server
import FidoOnboard.DataFormats.ServiceInfo
import FidoOnboard.OwnerServer.Handlers
import FidoOnboard.Base.Runs
import FidoOnboard.HttpWrapper.Runs
import FidoOnboard.OwnerServer.Sessions
import FidoOnboard.OwnerServer.Invariant
import FidoOnboard.HttpWrapper.Concurrent
import FidoOnboard.OwnerServer.Interleaving
import FidoOnboard.Protocol.VoucherTransfer
import FidoOnboard.Protocol.VoucherAgreement
import FidoOnboard.RendezvousServer.Agreement
import FidoOnboard.Base.Assoc
import FidoOnboard.Store.Calls
import FidoOnboard.Store.Directory
import FidoOnboard.Store.Database
import FidoOnboard.Store.Expiry
import FidoOnboard.Store.DirectoryExpiry
import FidoOnboard.Store.DatabaseExpiry
import FidoOnboard.Store.SameMap
import FidoOnboard.Base.Hex
import FidoOnboard.DataFormats.DiTypes
import FidoOnboard.ManufacturingServer.Handlers
import FidoOnboard.ManufacturingServer.Sessions
import FidoOnboard.ManufacturingServer.Vouchers
import FidoOnboard.ManufacturingServer.Gate
import FidoOnboard.ManufacturingClient.Di
import FidoOnboard.Protocol.HeaderAgreement
import FidoOnboard.HttpWrapper.Attempt
import FidoOnboard.HttpWrapper.LockStep
import FidoOnboard.Protocol.LockStep
import FidoOnboard.DataFormats.KeyAgreement
import FidoOnboard.ManufacturingClient.Diun
import FidoOnboard.Protocol.KeyAgreement
import FidoOnboard.Store.Files
import FidoOnboard.Store.FileNames
import FidoOnboard.Store.FailedStores
import FidoOnboard.Store.OwnerStore
import FidoOnboard.Store.MetadataFrame
import FidoOnboard.Store.ReRegistration
import FidoOnboard.DataFormats.CborValue
import FidoOnboard.DataFormats.RendezvousInfo
import FidoOnboard.ManufacturingServer.RendezvousConfiguration
import FidoOnboard.HttpWrapper.Failures
import FidoOnboard.Protocol.FailedRequests
import FidoOnboard.Protocol.InitializedDevices
import FidoOnboard.DataFormats.JsonValue
import FidoOnboard.DataFormats.ReferenceJson
import FidoOnboard.ServiceInfoApiServer.Handlers
import FidoOnboard.Client.ServiceInfo
import FidoOnboard.Protocol.ServiceInfoActions
import FidoOnboard.Protocol.ServiceInfoDelivery
import FidoOnboard.Client.Onboarding
import FidoOnboard.Client.Retry
import FidoOnboard.Base.Utf8
import FidoOnboard.Base.Splitting
import FidoOnboard.Base.FormUrlencoded
import FidoOnboard.ServiceInfoApiServer.Query
import FidoOnboard.DataFormats.CborCanonical
import FidoOnboard.DataFormats.ChainVerification
import FidoOnboard.DataFormats.CborAccepted
import FidoOnboard.DataFormats.HashComparison
import FidoOnboard.Protocol.HashChecks
import FidoOnboard.OwnerServer.NextEntry
import FidoOnboard.DataFormats.EcdhCodec
import FidoOnboard.DataFormats.EatClaims
import FidoOnboard.DataFormats.ServiceInfoRoundTrip
import FidoOnboard.Client.ServiceInfoSteps
import FidoOnboard.Client.DeployedFiles
import FidoOnboard.Client.RefusedServiceInfo
import FidoOnboard.Client.DroppedServiceInfo
import FidoOnboard.Client.ServiceInfoPanics
import FidoOnboard.Protocol.SshKeys
import FidoOnboard.Base.LexicalPath
import FidoOnboard.Client.DestinationPath
import FidoOnboard.DataFormats.DeviceInfo
import FidoOnboard.Base.Uri
import FidoOnboard.DataFormats.Addresses
import FidoOnboard.Client.ContactUrls
import FidoOnboard.DataFormats.RendezvousReading
import FidoOnboard.OwnerServer.RendezvousReport
import FidoOnboard.Base.Base64
import FidoOnboard.Store.VoucherFiles
import FidoOnboard.Protocol.WideIntegers
import FidoOnboard.Base.Related
import FidoOnboard.DataFormats.YamlConversion
import FidoOnboard.Client.To1
import FidoOnboard.HttpWrapper.Shared
import FidoOnboard.Protocol.Redirection
import FidoOnboard.Protocol.FoundOwner
import FidoOnboard.Base.Search
import FidoOnboard.Client.Main
import FidoOnboard.Client.Boots
import FidoOnboard.Base.Leases
import FidoOnboard.OwnerServer.Maintenance
import FidoOnboard.OwnerServer.Renewal
import FidoOnboard.OwnerServer.Retired
import FidoOnboard.HttpWrapper.Exchange
import FidoOnboard.Protocol.Attendance
import FidoOnboard.Protocol.Authentication
import FidoOnboard.Protocol.Onboarded
