import Guiying.Core.Ticket

/-!
# Minted tickets read back

The encoder's image against the decoder's domain: a minted ticket with at most
512 components reads back as exactly what it was minted from, and nothing that
differs from it in its kind, its session, its payload or its MAC reads as it.
-/

namespace Guiying.Core

open Guiying.Foundation Guiying.Foundation.ByteString Guiying.Foundation.MachineInt
open Guiying.Foundation.Outcome

/-! ## Components -/

theorem pathComponents_of_oneLevel {name : Component}
    (oneLevel : slash ∉ name) (notDot : name ≠ dot) :
    pathComponents name = (interpretPart name).toList := by
  have parts : name.splitOn slash = [name] :=
    List.splitOnP_eq_singleton fun byte member => by
      rw [beq_eq_false_iff_ne]
      rintro rfl
      exact oneLevel member
  have notRooted : name.head? ≠ some slash := by
    intro head
    exact oneLevel (List.mem_of_mem_head? head)
  have notCurrent : [name].head? ≠ some dot := by simpa using notDot
  simp only [pathComponents, parts, if_neg notRooted, if_neg notCurrent, List.nil_append]
  cases part : interpretPart name <;> simp [part]

theorem validateComponent_of_isEntryName {name : Component} (valid : IsEntryName name) :
    validateComponent name = .ok () := by
  have parts : pathComponents name = [.normal name] := by
    rw [pathComponents_of_oneLevel valid.oneLevel valid.notDot, interpretPart,
      if_neg (by simp [valid.inhabited, valid.notDot]), if_neg valid.notDotDot]
    rfl
  have dotParts : pathComponents dot = [.curDir] := by decide
  have dotDotParts : pathComponents dotDot = [.parentDir] := by decide
  unfold validateComponent
  rw [parts, dotParts, dotDotParts, if_neg (by simp [valid.inhabited])]

theorem takeComponents_encodeComponents {components : List Component} {encoded : List UInt8}
    (encodes : encodeComponents components = .ok encoded)
    (valid : ∀ name ∈ components, IsEntryName name) (rest : List UInt8) :
    takeComponents components.length (encoded ++ rest) = .ok (components, rest) := by
  induction components generalizing encoded with
  | nil =>
      cases encodes
      rfl
  | cons name others ih =>
      simp only [encodeComponents, bind_eq_ok, orError_eq_ok, tryFrom_eq_some] at encodes
      obtain ⟨length, ⟨fits, rfl⟩, tail, later, same⟩ := encodes
      cases same
      have fits : name.length < 256 ^ 4 := fits
      have tailRead := ih later fun other member => valid other (List.mem_cons_of_mem name member)
      simp only [List.length_cons, takeComponents, TicketCursor.readNat, TicketCursor.take,
        encodeComponent, List.append_assoc, ByteCursor.readLe_append _ fits, ok_bind, decodeComponent,
        ByteCursor.take_append _ rfl, tailRead,
        validateComponent_of_isEntryName (valid name List.mem_cons_self)]

/-! ## Payloads -/

theorem takeHeader_ticketHeader (kind : TicketKind) (rest : List UInt8) :
    takeHeader kind (ticketHeader kind ++ rest) = .ok rest := by
  cases kind <;> rfl

theorem takeBytes32_append (value : Bytes32) (rest : List UInt8) :
    takeBytes32 (value.bytes ++ rest) = .ok (value, rest) := by
  unfold takeBytes32 TicketCursor.take
  rw [ByteCursor.take_append _ value.length_eq, ok_bind]
  exact dif_pos value.length_eq

theorem leBytes_inj {width left right : Nat} (leftFits : left < 256 ^ width)
    (rightFits : right < 256 ^ width) (same : leBytes width left = leBytes width right) :
    left = right := by
  rw [← readLittleEndian_leBytes leftFits, same, readLittleEndian_leBytes rightFits]

theorem ticketHeader_inj {left right : TicketKind}
    (same : ticketHeader left = ticketHeader right) : left = right := by
  refine TicketKind.code_injective ?_
  simpa [ticketHeader] using same

/-- What a minted payload is made of. -/
structure Minted (session : TicketSession) (kind : TicketKind) (rootIndex : Nat)
    (components : List Component) (signature : Bytes32) (encoded payload : List UInt8) : Prop where
  encodes : encodeComponents components = .ok encoded
  rootFits : rootIndex < u16Bound
  countFits : components.length < u16Bound
  payload_eq : payload = ticketHeader kind ++ (session.sessionId.bytes ++ (leBytes 2 rootIndex ++
    (leBytes 2 components.length ++ (encoded ++ signature.bytes))))

section Payload

variable {session : TicketSession} {kind : TicketKind} {rootIndex : Nat}
  {components : List Component} {signature : Bytes32} {encoded payload : List UInt8}

theorem ticketPayload_minted
    (made : ticketPayload session kind rootIndex components signature = .ok payload) :
    ∃ encoded, Minted session kind rootIndex components signature encoded payload := by
  simp only [ticketPayload, bind_eq_ok, orError_eq_ok, tryFrom_eq_some] at made
  obtain ⟨root, ⟨rootFits, rfl⟩, count, ⟨countFits, rfl⟩, encoded, encodes, same⟩ := made
  cases same
  exact ⟨encoded, encodes, rootFits, countFits, by simp only [List.append_assoc]⟩

namespace Minted

/-- The claims of a payload, up to the bound on its component count. -/
theorem claims (minted : Minted session kind rootIndex components signature encoded payload)
    (valid : ∀ name ∈ components, IsEntryName name) :
    (takeHeader kind payload >>= parseClaims) =
      if components.length > ticketComponentsMax then .error .tooLarge
      else .ok ⟨session.sessionId, rootIndex, components, signature⟩ := by
  have rootFits : rootIndex < 256 ^ 2 := minted.rootFits
  have countFits : components.length < 256 ^ 2 := minted.countFits
  have signatureRead := takeBytes32_append signature []
  rw [List.append_nil] at signatureRead
  rw [minted.payload_eq, takeHeader_ticketHeader, ok_bind, parseClaims, takeBytes32_append,
    ok_bind]
  simp only [TicketCursor.readNat, ByteCursor.readLe_append _ rootFits,
    ByteCursor.readLe_append _ countFits, ok_bind,
    takeComponents_encodeComponents minted.encodes valid, signatureRead, if_true]

theorem length_ge (minted : Minted session kind rootIndex components signature encoded payload) :
    ticketBytesMin - ticketMacBytes ≤ payload.length := by
  rw [minted.payload_eq]
  simp only [ticketHeader, List.length_append, session.sessionId.length_eq, signature.length_eq,
    length_leBytes, ticketBytesMin, ticketMacBytes, List.length_cons, List.length_nil,
    show ticketMagic.length = 4 from rfl]
  omega

/-- One payload is minted from one set of claims. -/
theorem unique {otherKind : TicketKind} {otherRoot : Nat} {otherComponents : List Component}
    {otherSignature : Bytes32} {otherEncoded : List UInt8}
    (minted : Minted session kind rootIndex components signature encoded payload)
    (other : Minted session otherKind otherRoot otherComponents otherSignature otherEncoded
      payload)
    (valid : ∀ name ∈ components, IsEntryName name)
    (otherValid : ∀ name ∈ otherComponents, IsEntryName name) :
    otherKind = kind ∧ otherRoot = rootIndex ∧ otherComponents = components ∧
      otherSignature = signature := by
  have same := minted.payload_eq.symm.trans other.payload_eq
  obtain ⟨header, same⟩ := List.append_inj same (by cases kind <;> cases otherKind <;> rfl)
  obtain ⟨root, same⟩ := List.append_inj (List.append_cancel_left same) (by simp)
  obtain ⟨count, same⟩ := List.append_inj same (by simp)
  have sameKind := ticketHeader_inj header
  have sameRoot : rootIndex = otherRoot := leBytes_inj minted.rootFits other.rootFits root
  have sameCount : components.length = otherComponents.length :=
    leBytes_inj minted.countFits other.countFits count
  have read := takeComponents_encodeComponents minted.encodes valid signature.bytes
  rw [same, sameCount, takeComponents_encodeComponents other.encodes otherValid] at read
  obtain ⟨sameComponents, sameSignature⟩ := Prod.mk.inj (Except.ok.inj read)
  exact ⟨sameKind.symm, sameRoot.symm, sameComponents, Bytes32.ext sameSignature⟩

end Minted

end Payload

/-! ## Tickets -/

/-- A ticket that was minted: its payload, and the payload's MAC. -/
theorem makeTicket_eq_ok {digests : Digests} {session : TicketSession} {kind : TicketKind}
    {rootIndex : Nat} {components : List Component} {signature : Bytes32} {ticket : OpaqueTicket}
    (made : makeTicket digests session kind rootIndex components signature = .ok ticket) :
    ∃ payload, ticketPayload session kind rootIndex components signature = .ok payload ∧
      ticket.bytes = payload ++ (digests.keyedHash session.ticketKey payload).bytes ∧
      ticket.bytes.length ≤ streamTicketBytesHardMax := by
  simp only [makeTicket, bind_eq_ok] at made
  obtain ⟨payload, payloadMade, rest⟩ := made
  refine ⟨payload, payloadMade, ?_⟩
  split at rest
  · cases rest
  · rename_i small
    cases rest
    refine ⟨rfl, ?_⟩
    rw [List.length_append, Bytes32.length_eq]
    simp only [ticketMacBytes] at small
    omega

/-- An entry that enumeration can observe: its root, its names and its depth are bounded. -/
structure Observable (maxDirectoryDepth : Nat) (kind : TicketKind) (rootIndex : Nat)
    (components : List Component) : Prop where
  root : rootIndex < streamRootsHardMax
  names : ∀ name ∈ components, IsEntryName name
  depth : components.length ≤
    match kind with
    | .directory => maxDirectoryDepth
    | .file => maxDirectoryDepth + 1

/-- The MAC of a payload authenticates no other payload. -/
def Unforgeable (digests : Digests) (key : Bytes32) (payload : List UInt8) : Prop :=
  ∀ other, digests.keyedHash key other = digests.keyedHash key payload → other = payload

/-- The session reads the ticket back as what it was minted from, and nothing else reads as it. -/
structure ReadsBack (digests : Digests) (session : TicketSession) (kind : TicketKind)
    (rootIndex : Nat) (components : List Component) (signature : Bytes32)
    (ticket : OpaqueTicket) : Prop where
  accepted : validateTicket digests session ticket kind =
    .ok ⟨session.sessionId, rootIndex, components, signature⟩
  otherKind : ∀ other, other ≠ kind →
    ∃ error, validateTicket digests session ticket other = .error error
  otherSession : ∀ other : TicketSession, other.sessionId ≠ session.sessionId →
    ∃ error, validateTicket digests other ticket kind = .error error
  /-- Changing the payload, or changing the MAC, is noticed. -/
  tampered : ∀ changed : OpaqueTicket, changed.bytes ≠ ticket.bytes →
    changed.bytes.length = ticket.bytes.length →
    (changed.bytes.take (ticket.bytes.length - ticketMacBytes) =
        ticket.bytes.take (ticket.bytes.length - ticketMacBytes) ∨
      changed.bytes.drop (ticket.bytes.length - ticketMacBytes) =
        ticket.bytes.drop (ticket.bytes.length - ticketMacBytes)) →
    ∃ error, validateTicket digests session changed kind = .error error
  unique : ∀ otherKind otherRoot otherComponents otherSignature other,
    (∀ name ∈ otherComponents, IsEntryName name) →
    makeTicket digests session otherKind otherRoot otherComponents otherSignature = .ok other →
    other.bytes = ticket.bytes → otherKind = kind ∧ otherRoot = rootIndex ∧
      otherComponents = components ∧ otherSignature = signature

/-! ## Validation -/

theorem eq_of_take_of_drop {α : Type*} (count : Nat) {left right : List α}
    (front : left.take count = right.take count) (back : left.drop count = right.drop count) :
    left = right := by
  rw [← List.take_append_drop count left, front, back, List.take_append_drop]

theorem exists_error {ε α : Type*} {result : Except ε α}
    (fails : ∀ value, result ≠ .ok value) : ∃ error, result = .error error := by
  cases result with
  | ok value => exact absurd rfl (fails value)
  | error error => exact ⟨error, rfl⟩

section Validate

variable {digests : Digests} {session : TicketSession} {ticket : OpaqueTicket}
  {expectedKind : TicketKind} {claims : TicketClaims}

/-- What validation checks besides the layout. -/
theorem validateTicket_eq_ok
    (valid : validateTicket digests session ticket expectedKind = .ok claims) :
    parseTicket digests ticket.bytes expectedKind = .ok claims ∧
      claims.sessionId = session.sessionId ∧
      (digests.keyedHash session.ticketKey
        (ticket.bytes.take (ticket.bytes.length - ticketMacBytes))).bytes =
          ticket.bytes.drop (ticket.bytes.length - ticketMacBytes) := by
  simp only [validateTicket, bind_eq_ok] at valid
  obtain ⟨parsed, found, rest⟩ := valid
  split at rest
  · cases rest
  rename_i sameSession
  simp only [bind_eq_ok, orError_eq_ok, checkedSub_eq_some] at rest
  obtain ⟨length, ⟨_, rfl⟩, rest⟩ := rest
  split at rest
  · cases rest
  rename_i sameMac
  cases rest
  exact ⟨found, not_not.mp sameSession, not_not.mp sameMac⟩

end Validate

/-- Bytes that start as a ticket of `kind` open as that kind only. -/
theorem fromUntrustedBytes_ticketHeader (digests : Digests) (expectedKind : TicketKind)
    {kind : TicketKind} {rest : List UInt8} (long : ticketBytesMin ≤ (ticketHeader kind ++ rest).length)
    (small : (ticketHeader kind ++ rest).length ≤ streamTicketBytesHardMax) :
    OpaqueTicket.fromUntrustedBytes digests (ticketHeader kind ++ rest) expectedKind =
      if expectedKind = kind then
        .ok ⟨ticketHeader kind ++ rest, ticketSortKey digests (ticketHeader kind ++ rest)⟩
      else .error .wrongKind := by
  have start : ¬ ((ticketHeader kind ++ rest).length < ticketBytesMin ∨
      (ticketHeader kind ++ rest).take 4 ≠ ticketMagic ∨
      (ticketHeader kind ++ rest)[4]? ≠ some ticketVersion) := by
    rw [not_or, not_or, not_not, not_not]
    exact ⟨by omega, by cases kind <;> rfl, by cases kind <;> rfl⟩
  have kindByte : (ticketHeader kind ++ rest)[5]? = some kind.code := by cases kind <;> rfl
  have inhabited : ticketHeader kind ++ rest ≠ [] := by cases kind <;> simp [ticketHeader]
  unfold OpaqueTicket.fromUntrustedBytes
  rw [if_neg inhabited, if_neg (by omega), if_neg start, kindByte]
  by_cases same : expectedKind = kind
  · rw [if_pos same, if_neg (by simp [same])]
  · rw [if_neg same, if_pos]
    intro sameCode
    exact same (TicketKind.code_injective (Option.some.inj sameCode).symm)

section Minted

variable {digests : Digests} {session : TicketSession} {kind : TicketKind} {rootIndex : Nat}
  {components : List Component} {signature : Bytes32} {ticket : OpaqueTicket}

/-- A minted ticket, taken apart. -/
theorem makeTicket_minted
    (made : makeTicket digests session kind rootIndex components signature = .ok ticket) :
    ∃ encoded payload, Minted session kind rootIndex components signature encoded payload ∧
      ticketPayload session kind rootIndex components signature = .ok payload ∧
      ticket.bytes.take (ticket.bytes.length - ticketMacBytes) = payload ∧
      ticket.bytes.drop (ticket.bytes.length - ticketMacBytes) =
        (digests.keyedHash session.ticketKey payload).bytes ∧
      (∃ rest, ticket.bytes = ticketHeader kind ++ rest) ∧
      ticketBytesMin ≤ ticket.bytes.length ∧
      ticket.bytes.length ≤ streamTicketBytesHardMax := by
  obtain ⟨payload, payloadMade, bytes, small⟩ := makeTicket_eq_ok made
  obtain ⟨encoded, minted⟩ := ticketPayload_minted payloadMade
  have long := minted.length_ge
  have length : ticket.bytes.length - ticketMacBytes = payload.length := by
    rw [bytes, List.length_append, Bytes32.length_eq]
    exact Nat.add_sub_cancel _ _
  have total : ticket.bytes.length = payload.length + 32 := by
    rw [bytes, List.length_append, Bytes32.length_eq]
  refine ⟨encoded, payload, minted, payloadMade, ?_, ?_, ?_, ?_, small⟩
  · rw [length, bytes, List.take_left' rfl]
  · rw [length, bytes, List.drop_left' rfl]
  · rw [bytes, minted.payload_eq, List.append_assoc]
    exact ⟨_, rfl⟩
  · simp only [ticketBytesMin, ticketMacBytes] at long ⊢
    omega

/-- A minted ticket parses as its claims, up to the bound on their count. -/
theorem parseTicket_makeTicket
    (made : makeTicket digests session kind rootIndex components signature = .ok ticket)
    (valid : ∀ name ∈ components, IsEntryName name) (expectedKind : TicketKind) :
    parseTicket digests ticket.bytes expectedKind =
      if expectedKind ≠ kind then .error .wrongKind
      else if components.length > ticketComponentsMax then .error .tooLarge
      else .ok ⟨session.sessionId, rootIndex, components, signature⟩ := by
  obtain ⟨encoded, payload, minted, _, taken, _, ⟨rest, start⟩, long, small⟩ :=
    makeTicket_minted made
  have opened := fromUntrustedBytes_ticketHeader digests expectedKind (start ▸ long)
    (start ▸ small)
  rw [← start] at opened
  rw [parseTicket, opened]
  by_cases same : expectedKind = kind
  · have length : checkedSub ticket.bytes.length ticketMacBytes =
        some (ticket.bytes.length - ticketMacBytes) :=
      checkedSub_eq_some.mpr ⟨by simp only [ticketBytesMin, ticketMacBytes] at *; omega, rfl⟩
    rw [if_pos same, if_neg (not_not.mpr same), ok_bind]
    dsimp only
    rw [length, orError, ok_bind, taken, same]
    exact minted.claims valid
  · rw [if_neg same, if_pos same]
    rfl

end Minted

/-! ## The round trip -/

section RoundTrip

variable {digests : Digests} {session : TicketSession} {kind : TicketKind} {rootIndex : Nat}
  {components : List Component} {signature : Bytes32} {ticket : OpaqueTicket}

/-- A ticket with too many components is minted but never accepted. -/
theorem validateTicket_of_long
    (made : makeTicket digests session kind rootIndex components signature = .ok ticket)
    (valid : ∀ name ∈ components, IsEntryName name)
    (long : components.length > ticketComponentsMax) :
    validateTicket digests session ticket kind = .error .tooLarge := by
  have parsed := parseTicket_makeTicket made valid kind
  rw [if_neg (not_not.mpr rfl), if_pos long] at parsed
  rw [validateTicket, parsed, error_bind]

theorem validateTicket_of_short
    (made : makeTicket digests session kind rootIndex components signature = .ok ticket)
    (valid : ∀ name ∈ components, IsEntryName name)
    (short : components.length ≤ ticketComponentsMax) :
    validateTicket digests session ticket kind =
      .ok ⟨session.sessionId, rootIndex, components, signature⟩ := by
  obtain ⟨encoded, payload, minted, _, taken, dropped, _, long, _⟩ := makeTicket_minted made
  have parsed := parseTicket_makeTicket made valid kind
  rw [if_neg (not_not.mpr rfl), if_neg (not_lt.mpr short)] at parsed
  have length : checkedSub ticket.bytes.length ticketMacBytes =
      some (ticket.bytes.length - ticketMacBytes) :=
    checkedSub_eq_some.mpr ⟨by simp only [ticketBytesMin, ticketMacBytes] at *; omega, rfl⟩
  rw [validateTicket, parsed, ok_bind]
  dsimp only
  rw [if_neg (not_not.mpr rfl), length, orError, ok_bind, taken, dropped,
    if_neg (not_not.mpr rfl)]

/-- A changed payload or a changed MAC is noticed. -/
theorem validateTicket_tampered {payload : List UInt8}
    (made : makeTicket digests session kind rootIndex components signature = .ok ticket)
    (minted : ticketPayload session kind rootIndex components signature = .ok payload)
    (unforgeable : Unforgeable digests session.ticketKey payload) (changed : OpaqueTicket)
    (different : changed.bytes ≠ ticket.bytes)
    (length : changed.bytes.length = ticket.bytes.length)
    (part : changed.bytes.take (ticket.bytes.length - ticketMacBytes) =
        ticket.bytes.take (ticket.bytes.length - ticketMacBytes) ∨
      changed.bytes.drop (ticket.bytes.length - ticketMacBytes) =
        ticket.bytes.drop (ticket.bytes.length - ticketMacBytes)) :
    ∃ error, validateTicket digests session changed kind = .error error := by
  obtain ⟨_, madePayload, _, payloadMade, taken, dropped, _⟩ := makeTicket_minted made
  cases minted.symm.trans payloadMade
  refine exists_error fun claims accepted => different ?_
  obtain ⟨_, _, sameMac⟩ := validateTicket_eq_ok accepted
  rw [length] at sameMac
  rcases part with samePayload | sameTail
  · refine eq_of_take_of_drop _ samePayload ?_
    rw [← sameMac, samePayload, taken, dropped]
  · refine eq_of_take_of_drop _ ?_ sameTail
    rw [sameTail, dropped] at sameMac
    rw [taken]
    exact unforgeable _ (Bytes32.ext sameMac)

/-- A session reads back the tickets it mints, exactly when they have at most 512 components. -/
theorem readsBack_iff {maxDirectoryDepth : Nat} {payload : List UInt8}
    (observable : Observable maxDirectoryDepth kind rootIndex components)
    (made : makeTicket digests session kind rootIndex components signature = .ok ticket)
    (minted : ticketPayload session kind rootIndex components signature = .ok payload)
    (unforgeable : Unforgeable digests session.ticketKey payload) :
    ReadsBack digests session kind rootIndex components signature ticket ↔
      components.length ≤ ticketComponentsMax := by
  constructor
  · intro readsBack
    by_contra long
    have accepted := readsBack.accepted
    rw [validateTicket_of_long made observable.names (not_le.mp long)] at accepted
    cases accepted
  · intro short
    refine ⟨validateTicket_of_short made observable.names short, fun other different =>
      exists_error fun claims accepted => ?_, fun other different =>
      exists_error fun claims accepted => ?_,
      validateTicket_tampered made minted unforgeable, ?_⟩
    · obtain ⟨parsed, _⟩ := validateTicket_eq_ok accepted
      rw [parseTicket_makeTicket made observable.names, if_pos different] at parsed
      cases parsed
    · obtain ⟨parsed, sameSession, _⟩ := validateTicket_eq_ok accepted
      rw [parseTicket_makeTicket made observable.names, if_neg (not_not.mpr rfl),
        if_neg (not_lt.mpr short)] at parsed
      cases parsed
      exact different sameSession.symm
    · intro otherKind otherRoot otherComponents otherSignature other otherValid otherMade same
      obtain ⟨_, payload₁, minted₁, _, taken₁, _⟩ := makeTicket_minted made
      obtain ⟨_, payload₂, minted₂, _, taken₂, _⟩ := makeTicket_minted otherMade
      rw [same, taken₁] at taken₂
      subst taken₂
      exact minted₁.unique minted₂ observable.names otherValid

end RoundTrip

/-! ## The deepest file -/

/-- Digests under which one payload has a MAC of its own. -/
def digestsMarking (payload : List UInt8) : Digests where
  hash _ := .filled 0
  keyedHash _ bytes := if bytes = payload then .filled 1 else .filled 0

def sampleTicketSession : TicketSession := ⟨.filled 7, .filled 9⟩

/-- A file at the bottom of `depth` directories, every name one letter long. -/
def deepFile (depth : Nat) : List Component :=
  List.replicate depth (asciiBytes "a") ++ [asciiBytes "a.jpg"]

theorem length_deepFile (depth : Nat) : (deepFile depth).length = depth + 1 := by
  rw [deepFile, List.length_append, List.length_replicate, List.length_singleton]

theorem isEntryName_deepFile {depth : Nat} : ∀ name ∈ deepFile depth, IsEntryName name := by
  intro name member
  rcases List.mem_append.mp member with directory | file
  · rw [List.eq_of_mem_replicate directory]
    exact ⟨by decide, by decide, by decide, by decide, by decide⟩
  · rw [List.mem_singleton.mp file]
    exact ⟨by decide, by decide, by decide, by decide, by decide⟩

def deepPayload (depth : Nat) : List UInt8 :=
  (ticketPayload sampleTicketSession .file 0 (deepFile depth) (.filled 3)).toOption.getD []

def deepTicket (depth : Nat) : Except TicketDecodeError OpaqueTicket :=
  makeTicket (digestsMarking (deepPayload depth)) sampleTicketSession .file 0 (deepFile depth)
    (.filled 3)

theorem unforgeable_digestsMarking (payload : List UInt8) :
    Unforgeable (digestsMarking payload) sampleTicketSession.ticketKey payload := by
  intro other same
  by_contra different
  simp only [digestsMarking, if_neg different, if_true] at same
  exact absurd same (by decide)

theorem readsBack_iff_shallow :
    ReadsBack (digestsMarking (deepPayload 1)) sampleTicketSession .file 0 (deepFile 1)
        (.filled 3) ((deepTicket 1).toOption.getD ⟨[], .filled 0⟩) ↔
      (deepFile 1).length ≤ ticketComponentsMax :=
  readsBack_iff
    (show Observable 1 .file 0 (deepFile 1) from ⟨by decide, isEntryName_deepFile, by decide⟩)
    (by decide +kernel) (by decide +kernel) (unforgeable_digestsMarking _)

/-- A picture below 512 directories is observable, and its ticket is minted, but not read back. -/
theorem deepestFile_not_readsBack :
    Observable 512 .file 0 (deepFile 512) ∧
      Unforgeable (digestsMarking (deepPayload 512)) sampleTicketSession.ticketKey
        (deepPayload 512) ∧
      ∃ ticket, deepTicket 512 = .ok ticket ∧
        ¬ ReadsBack (digestsMarking (deepPayload 512)) sampleTicketSession .file 0 (deepFile 512)
          (.filled 3) ticket := by
  refine ⟨⟨by decide, isEntryName_deepFile, (length_deepFile 512).le⟩, unforgeable_digestsMarking _, ?_⟩
  obtain ⟨ticket, made⟩ : ∃ ticket, deepTicket 512 = .ok ticket := by
    cases made : deepTicket 512 with
    | ok ticket => exact ⟨ticket, rfl⟩
    | error error =>
        have minted : (deepTicket 512).toOption.isSome = true := by decide +kernel
        rw [made] at minted
        cases minted
  refine ⟨ticket, made, fun readsBack => ?_⟩
  have accepted := readsBack.accepted
  have long : (deepFile 512).length > ticketComponentsMax := by
    rw [length_deepFile]
    decide
  rw [validateTicket_of_long made isEntryName_deepFile long] at accepted
  cases accepted

end Guiying.Core
