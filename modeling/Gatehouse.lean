import Gatehouse.Admission
import Gatehouse.Audit
import Gatehouse.Authentication
import Gatehouse.Authorization
import Gatehouse.Call
import Gatehouse.CommandLine
import Gatehouse.Credential
import Gatehouse.Dialogue
import Gatehouse.Digest.Argon2
import Gatehouse.Digest.Blake2b
import Gatehouse.Digest.Sha256
import Gatehouse.Digest.Sha512
import Gatehouse.Duration
import Gatehouse.Encoding.Base64
import Gatehouse.Encoding.Hex
import Gatehouse.Encoding.Percent
import Gatehouse.Failure
import Gatehouse.Http.Header
import Gatehouse.Http.Response
import Gatehouse.Identity
import Gatehouse.Identity.Json
import Gatehouse.Json.Bytes
import Gatehouse.Json.Decode
import Gatehouse.Json.Draft
import Gatehouse.Json.Reader
import Gatehouse.Json.Value
import Gatehouse.Listening
import Gatehouse.Main
import Gatehouse.Net.IpAddress
import Gatehouse.Net.Url
import Gatehouse.Program
import Gatehouse.Proofs.Acceptance
import Gatehouse.Proofs.Accounting
import Gatehouse.Proofs.Acting
import Gatehouse.Proofs.Administrator
import Gatehouse.Proofs.Admission
import Gatehouse.Proofs.Ascii
import Gatehouse.Proofs.AuditText
import Gatehouse.Proofs.Authentication
import Gatehouse.Proofs.Backends
import Gatehouse.Proofs.Base64
import Gatehouse.Proofs.Credential
import Gatehouse.Proofs.Decimal
import Gatehouse.Proofs.Digest
import Gatehouse.Proofs.Disclosure
import Gatehouse.Proofs.Duration
import Gatehouse.Proofs.DurationText
import Gatehouse.Proofs.DurationVariable
import Gatehouse.Proofs.Endings
import Gatehouse.Proofs.Except
import Gatehouse.Proofs.Faults
import Gatehouse.Proofs.Format
import Gatehouse.Proofs.Granting
import Gatehouse.Proofs.Handling
import Gatehouse.Proofs.HeaderText
import Gatehouse.Proofs.HeaderUse
import Gatehouse.Proofs.History
import Gatehouse.Proofs.Hostless
import Gatehouse.Proofs.Identity
import Gatehouse.Proofs.Interleaving
import Gatehouse.Proofs.Isolation
import Gatehouse.Proofs.Issuing
import Gatehouse.Proofs.Json
import Gatehouse.Proofs.JsonText
import Gatehouse.Proofs.JsonWriting
import Gatehouse.Proofs.KeyCache
import Gatehouse.Proofs.Lookup
import Gatehouse.Proofs.Lowercase
import Gatehouse.Proofs.OpenId
import Gatehouse.Proofs.Phc
import Gatehouse.Proofs.Platform
import Gatehouse.Proofs.Relational
import Gatehouse.Proofs.RoleRows
import Gatehouse.Proofs.Roles
import Gatehouse.Proofs.Rotation
import Gatehouse.Proofs.Runs
import Gatehouse.Proofs.Secrecy
import Gatehouse.Proofs.ServerUrl
import Gatehouse.Proofs.Settings
import Gatehouse.Proofs.Slots
import Gatehouse.Proofs.Spelling
import Gatehouse.Proofs.Stage
import Gatehouse.Proofs.Store
import Gatehouse.Proofs.Surface
import Gatehouse.Proofs.Tables
import Gatehouse.Proofs.Token
import Gatehouse.Proofs.Trail
import Gatehouse.Proofs.TrustDomain
import Gatehouse.Proofs.Uuid
import Gatehouse.Proofs.Variables
import Gatehouse.Proofs.Verdict
import Gatehouse.Proofs.Verifier
import Gatehouse.Provider
import Gatehouse.Provider.Json
import Gatehouse.Provider.OpenId
import Gatehouse.Provider.Table
import Gatehouse.Provider.Web
import Gatehouse.Record
import Gatehouse.Record.Json
import Gatehouse.Role
import Gatehouse.Secret.Phc
import Gatehouse.Secret.Slots
import Gatehouse.Secret.Verifier
import Gatehouse.ServerUrl
import Gatehouse.Service
import Gatehouse.Settings
import Gatehouse.Settings.Json
import Gatehouse.Settings.Load
import Gatehouse.Settings.Tree
import Gatehouse.Settings.VariableFile
import Gatehouse.Settings.Variables
import Gatehouse.Signature.Ecdsa
import Gatehouse.Signature.Hash
import Gatehouse.Signature.PowMod
import Gatehouse.Signature.PowMod.Lemmas
import Gatehouse.Signature.Rsa
import Gatehouse.Stage
import Gatehouse.Startup
import Gatehouse.Store.Address
import Gatehouse.Store.Fault
import Gatehouse.Store.Memory
import Gatehouse.Store.Relational
import Gatehouse.Store.RoleQuery
import Gatehouse.Store.Statement
import Gatehouse.Surface
import Gatehouse.Text.AlphanumericTable
import Gatehouse.Text.Ascii
import Gatehouse.Text.Blank
import Gatehouse.Text.CaseTable
import Gatehouse.Text.Decimal
import Gatehouse.Text.Escaped
import Gatehouse.Text.HiddenTable
import Gatehouse.Text.Lowercase
import Gatehouse.Text.Scientific
import Gatehouse.TextSet
import Gatehouse.Timeline
import Gatehouse.Token.Algorithm
import Gatehouse.Token.Check
import Gatehouse.Token.Claims
import Gatehouse.Token.Header
import Gatehouse.Token.KeySet
import Gatehouse.Token.Validation
import Gatehouse.Usage
import Gatehouse.Uuid
import Gatehouse.World
import Gatehouse.Yaml.Cursor
import Gatehouse.Yaml.Meaning
import Gatehouse.Yaml.Node
import Gatehouse.Yaml.Scalar
import Gatehouse.Yaml.Token
