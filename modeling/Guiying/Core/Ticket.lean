import Guiying.Foundation.ByteCursor
import Guiying.Foundation.MachineInt

/-!
# Session tickets

A streaming session mints an authenticated ticket for every entry it observes and
accepts only tickets it can read back: `make_ticket`, `parse_ticket` and
`validate_ticket`, on the platform that can traverse directories (Unix). BLAKE3
is a parameter, plain and keyed.
-/

namespace Guiying.Core

open Guiying.Foundation Guiying.Foundation.ByteString Guiying.Foundation.MachineInt
open Guiying.Foundation.Outcome

/-! ## Names -/

/-- A path component as Unix holds it: its bytes. -/
abbrev Component := List UInt8

def slash : UInt8 := ascii '/'
def dot : Component := [ascii '.']
def dotDot : Component := [ascii '.', ascii '.']

/-- `std::path::Component` on Unix. -/
inductive PathComponent where
  | rootDir
  | curDir
  | parentDir
  | normal (name : Component)
  deriving DecidableEq

/-- A part between separators; empty parts and `.` vanish. -/
def interpretPart (part : Component) : Option PathComponent :=
  if part = [] ∨ part = dot then none
  else if part = dotDot then some .parentDir
  else some (.normal part)

/-- `Path::components`: a leading `/` is the root, a leading `.` stays. -/
def pathComponents (path : Component) : List PathComponent :=
  let parts := path.splitOn slash
  let start := if path.head? = some slash then [PathComponent.rootDir]
    else if parts.head? = some dot then [.curDir] else []
  start ++ parts.filterMap interpretPart

/-- A name a directory lists: not empty, without `/` and NUL, neither `.` nor `..`. -/
structure IsEntryName (name : Component) : Prop where
  inhabited : name ≠ []
  oneLevel : slash ∉ name
  terminated : (0 : UInt8) ∉ name
  notDot : name ≠ dot
  notDotDot : name ≠ dotDot

/-! ## Tickets -/

inductive TicketDecodeError where
  | empty
  | tooLarge
  | malformed
  | wrongKind
  | wrongSession
  | authenticationFailed
  | unsupportedPathEncoding
  deriving DecidableEq

inductive TicketKind where
  | file
  | directory
  deriving DecidableEq

namespace TicketKind

def code : TicketKind → UInt8
  | file => 1
  | directory => 2

theorem code_injective : Function.Injective code := by
  intro left right same
  cases left <;> cases right <;> first | rfl | cases same

end TicketKind

def ticketMagic : List UInt8 := asciiBytes "GYTK"
def ticketVersion : UInt8 := 1
def ticketMacBytes : Nat := 32
def streamTicketBytesHardMax : Nat := 64 * 1024
def nativePathEncodingTag : UInt8 := 1
def ticketComponentsMax : Nat := 512
def streamRootsHardMax : Nat := 64
def ticketBytesMin : Nat := 8 + 32 + 2 + 2 + 32 + ticketMacBytes

/-- BLAKE3 over a byte string, and keyed. -/
structure Digests where
  hash : List UInt8 → Bytes32
  keyedHash : Bytes32 → List UInt8 → Bytes32

/-- What a live session signs its tickets with. -/
structure TicketSession where
  sessionId : Bytes32
  ticketKey : Bytes32

structure OpaqueTicket where
  bytes : List UInt8
  sortKey : Bytes32
  deriving DecidableEq

structure TicketClaims where
  sessionId : Bytes32
  rootIndex : Nat
  components : List Component
  sourceSignature : Bytes32
  deriving DecidableEq

def ticketSortKey (digests : Digests) (bytes : List UInt8) : Bytes32 :=
  digests.hash (asciiBytes "guiying.core-ticket-id.v1" ++ [0] ++ bytes)

/-! ## Minting -/

/-- `encode_component` on Unix. -/
def encodeComponent (component : Component) : List UInt8 := component

def encodeComponents : List Component → Except TicketDecodeError (List UInt8)
  | [] => .ok []
  | component :: rest => do
      let bytes := encodeComponent component
      let length ← orError .tooLarge (tryFrom u32Bound bytes.length)
      let encoded ← encodeComponents rest
      .ok (leBytes 4 length ++ bytes ++ encoded)

def ticketHeader (kind : TicketKind) : List UInt8 :=
  ticketMagic ++ [ticketVersion, kind.code, nativePathEncodingTag, 0]

def ticketPayload (session : TicketSession) (kind : TicketKind) (rootIndex : Nat)
    (components : List Component) (signature : Bytes32) : Except TicketDecodeError (List UInt8) := do
  let root ← orError .malformed (tryFrom u16Bound rootIndex)
  let count ← orError .tooLarge (tryFrom u16Bound components.length)
  let encoded ← encodeComponents components
  .ok (ticketHeader kind ++ session.sessionId.bytes ++ leBytes 2 root ++ leBytes 2 count ++
    encoded ++ signature.bytes)

def makeTicket (digests : Digests) (session : TicketSession) (kind : TicketKind) (rootIndex : Nat)
    (components : List Component) (signature : Bytes32) :
    Except TicketDecodeError OpaqueTicket := do
  let payload ← ticketPayload session kind rootIndex components signature
  if payload.length + ticketMacBytes > streamTicketBytesHardMax then .error .tooLarge
  else
    let bytes := payload ++ (digests.keyedHash session.ticketKey payload).bytes
    .ok ⟨bytes, ticketSortKey digests bytes⟩

/-! ## Reading back -/

def OpaqueTicket.fromUntrustedBytes (digests : Digests) (bytes : List UInt8)
    (expectedKind : TicketKind) : Except TicketDecodeError OpaqueTicket :=
  if bytes = [] then .error .empty
  else if bytes.length > streamTicketBytesHardMax then .error .tooLarge
  else if bytes.length < ticketBytesMin ∨ bytes.take 4 ≠ ticketMagic ∨
      bytes[4]? ≠ some ticketVersion then .error .malformed
  else if bytes[5]? ≠ some expectedKind.code then .error .wrongKind
  else .ok ⟨bytes, ticketSortKey digests bytes⟩

/-- `decode_component` on Unix. -/
def decodeComponent (bytes : List UInt8) : Except TicketDecodeError Component := .ok bytes

def validateComponent (component : Component) : Except TicketDecodeError Unit :=
  if component = [] ∨ pathComponents component = pathComponents dot ∨
      pathComponents component = pathComponents dotDot ∨
      (pathComponents component).length ≠ 1 then
    .error .malformed
  else .ok ()

namespace TicketCursor

def take (count : Nat) (remaining : List UInt8) :
    Except TicketDecodeError (List UInt8 × List UInt8) :=
  ByteCursor.take .malformed count remaining

def readNat (width : Nat) (remaining : List UInt8) : Except TicketDecodeError (Nat × List UInt8) :=
  ByteCursor.readLe .malformed width remaining

end TicketCursor

def takeComponents : Nat → List UInt8 → Except TicketDecodeError (List Component × List UInt8)
  | 0, remaining => .ok ([], remaining)
  | count + 1, remaining => do
      let (length, remaining) ← TicketCursor.readNat 4 remaining
      let (bytes, remaining) ← TicketCursor.take length remaining
      let component ← decodeComponent bytes
      validateComponent component
      let (rest, remaining) ← takeComponents count remaining
      .ok (component :: rest, remaining)

/-- The fixed first eight bytes of a payload. -/
def takeHeader (expectedKind : TicketKind) (remaining : List UInt8) :
    Except TicketDecodeError (List UInt8) := do
  let (magic, remaining) ← TicketCursor.take 4 remaining
  if magic ≠ ticketMagic then .error .malformed
  else
    let (version, remaining) ← TicketCursor.take 1 remaining
    if version ≠ [ticketVersion] then .error .malformed
    else
      let (kind, remaining) ← TicketCursor.take 1 remaining
      if kind ≠ [expectedKind.code] then .error .malformed
      else
        let (encoding, remaining) ← TicketCursor.take 1 remaining
        if encoding ≠ [nativePathEncodingTag] then .error .unsupportedPathEncoding
        else
          let (reserved, remaining) ← TicketCursor.take 1 remaining
          if reserved ≠ [0] then .error .malformed else .ok remaining

/-- A field of 32 bytes. -/
def takeBytes32 (remaining : List UInt8) : Except TicketDecodeError (Bytes32 × List UInt8) := do
  let (bytes, remaining) ← TicketCursor.take 32 remaining
  if h : bytes.length = 32 then .ok (⟨bytes, h⟩, remaining) else .error .malformed

/-- What follows the header of a payload. -/
def parseClaims (remaining : List UInt8) : Except TicketDecodeError TicketClaims := do
  let (sessionId, remaining) ← takeBytes32 remaining
  let (rootIndex, remaining) ← TicketCursor.readNat 2 remaining
  let (componentCount, remaining) ← TicketCursor.readNat 2 remaining
  if componentCount > ticketComponentsMax then .error .tooLarge
  else
    let (components, remaining) ← takeComponents componentCount remaining
    let (sourceSignature, remaining) ← takeBytes32 remaining
    if remaining = [] then .ok ⟨sessionId, rootIndex, components, sourceSignature⟩
    else .error .malformed

def parseTicket (digests : Digests) (bytes : List UInt8) (expectedKind : TicketKind) :
    Except TicketDecodeError TicketClaims := do
  let ticket ← OpaqueTicket.fromUntrustedBytes digests bytes expectedKind
  let payloadLength ← orError .malformed (checkedSub ticket.bytes.length ticketMacBytes)
  let remaining ← takeHeader expectedKind (ticket.bytes.take payloadLength)
  parseClaims remaining

def validateTicket (digests : Digests) (session : TicketSession) (ticket : OpaqueTicket)
    (expectedKind : TicketKind) : Except TicketDecodeError TicketClaims := do
  let claims ← parseTicket digests ticket.bytes expectedKind
  if claims.sessionId ≠ session.sessionId then .error .wrongSession
  else
    let payloadLength ← orError .malformed (checkedSub ticket.bytes.length ticketMacBytes)
    if (digests.keyedHash session.ticketKey (ticket.bytes.take payloadLength)).bytes ≠
        ticket.bytes.drop payloadLength then
      .error .authenticationFailed
    else .ok claims

end Guiying.Core
