import RustyModbus.Client.Methods

/-!
# Reading the device identification

`read_device_identification` asks for the basic objects page by page: as long as a page
announces more, it asks again, from the announced object on, for three pages at most. Each
request goes through `send_with_retry`, which may send it several times; that is left to
`requestPage`, and the loop itself, `readPages`, is a program whose calls are the requests
and whose replies are what `send_with_retry` returns.

The other end is arbitrary here. `PageWalk` says what the loop can do with whatever comes
back, and everything else is read off it. The method puts the MEI type it asked for in
front of the data it got, without having looked at the one in the response, so a response
of the other MEI type passes if its data happens to have the right shape
(`readDeviceIdentification_canOpen`). Apart from this it returns only what it was sent
(`readDeviceIdentification_safe_iff`).
-/

namespace RustyModbus.Client

open Wire Interaction

structure OwnedDeviceIdentification where
  vendorName : Option String := none
  productCode : Option String := none
  majorMinorRevision : Option String := none
deriving DecidableEq, Repr

def maxBasicDeviceIdResponsePages : UInt8 := 3

/-- `String::from_utf8_lossy`: bytes that are UTF-8 are taken as they are. What the standard
library makes of others is `repair`. -/
def fromUtf8Lossy (repair : List UInt8 → String) (value : List UInt8) : String :=
  (String.fromUTF8? value.toByteArray).getD (repair value)

def OwnedDeviceIdentification.record (repair : List UInt8 → String)
    (result : OwnedDeviceIdentification) (obj : DeviceIdObjectEntry) : OwnedDeviceIdentification :=
  let value := fromUtf8Lossy repair obj.value
  match obj.id with
  | 0x00 => { result with vendorName := some value }
  | 0x01 => { result with productCode := some value }
  | 0x02 => { result with majorMinorRevision := some value }
  -- higher objects do not belong to a basic request
  | _ => result

/-- What the loop calls: a request for the objects from a given one on. -/
abbrev pageInterface : Interface where
  Call := UInt8
  Reply := fun _ => Except ClientError OwnedResponsePdu

def askPage (objectId : UInt8) : Fallible pageInterface ClientError OwnedResponsePdu :=
  ExceptT.mk (Program.perform (I := pageInterface) objectId)

theorem run_askPage {σ : Type} (serve : Component pageInterface σ) (objectId : UInt8) (s : σ) :
    (askPage objectId).run.run serve s = serve objectId s := rfl

/-- The page in a response. The data of an encapsulated-interface response starts behind the
MEI type, and the decoder wants one, so the source puts `0x0E` back. -/
def decodePage (response : OwnedResponsePdu) :
    Except ClientError ReadDeviceIdentificationResponse := do
  let pduData ← typedResponse
    (fun | .encapsulatedInterface mei => some (.ok mei.data) | _ => none) response
  (ReadDeviceIdentificationResponse.decode (0x0E :: pduData)).mapError .codec

/-- The loop: `pagesLeft` pages may follow the one asked for here. -/
def readPages (repair : List UInt8 → String) :
    Nat → UInt8 → OwnedDeviceIdentification →
      Fallible pageInterface ClientError OwnedDeviceIdentification
  | pagesLeft, requestObjectId, result => do
    let response ← askPage requestObjectId
    let devId ← Fallible.ofExcept (decodePage response)
    let result := devId.objects.foldl (·.record repair) result
    if !devId.moreFollows then return result
    match pagesLeft with
    | 0 => throw (.deviceIdentificationPaginationLimit maxBasicDeviceIdResponsePages)
    | pagesLeft + 1 =>
      Fallible.ofExcept (rejectIf (devId.nextObjectId ≤ requestObjectId)
        (.invalidDeviceIdentificationContinuation requestObjectId devId.nextObjectId))
      readPages repair pagesLeft devId.nextObjectId result

/-- One request of the loop, with its retries. -/
def requestPage (retry : RetryConfig) (unitId : UnitId) (objectId : UInt8) :
    ClientMethod OwnedResponsePdu := do
  let req : ReadDeviceIdentificationRequest := { deviceIdCode := .basicStream, objectId }
  let pdu ← orReturn (encodeRequest req.encodeInto 4)
  sendWithRetry retry unitId .encapsulatedInterfaceTransport pdu .replaySafe

def readDeviceIdentification (repair : List UInt8 → String) (retry : RetryConfig)
    (unitId : UnitId) : ClientMethod OwnedDeviceIdentification := do
  orReturn (rejectIf (unitId = 0) .broadcastReadNotAllowed)
  ExceptT.mk ((readPages repair (maxBasicDeviceIdResponsePages.toNat - 1) 0x00 {}).run.interpret
    fun objectId => (requestPage retry unitId objectId).run)

/-! ## What the loop can do -/

/-- A request of the loop and what came back. -/
abbrev PageExchange := UInt8 × Except ClientError OwnedResponsePdu

/-- The page a reply brings. -/
def pageOf (reply : Except ClientError OwnedResponsePdu) :
    Except ClientError ReadDeviceIdentificationResponse :=
  reply >>= decodePage

/-- The ways the loop can go, with its exchanges and its outcome. -/
inductive PageWalk (repair : List UInt8 → String) :
    Nat → UInt8 → OwnedDeviceIdentification → List PageExchange →
      Except ClientError OwnedDeviceIdentification → Prop
  | failed {n objectId result reply e} (hpage : pageOf reply = .error e) :
    PageWalk repair n objectId result [(objectId, reply)] (.error e)
  | last {n objectId result reply page} (hpage : pageOf reply = .ok page)
    (hmore : page.moreFollows = false) :
    PageWalk repair n objectId result [(objectId, reply)]
      (.ok (page.objects.foldl (·.record repair) result))
  | stopped {n objectId result reply page} (hpage : pageOf reply = .ok page)
    (hmore : page.moreFollows = true) (hstop : n = 0 ∨ page.nextObjectId ≤ objectId) (e) :
    PageWalk repair n objectId result [(objectId, reply)] (.error e)
  | next {n objectId result reply page exchanges outcome} (hpage : pageOf reply = .ok page)
    (hmore : page.moreFollows = true) (hnext : objectId < page.nextObjectId)
    (hrest : PageWalk repair n page.nextObjectId
      (page.objects.foldl (·.record repair) result) exchanges outcome) :
    PageWalk repair (n + 1) objectId result ((objectId, reply) :: exchanges) outcome

/-- The exchanges of an execution. -/
def pageExchanges {σ α : Type} (serve : Component pageInterface σ)
    (p : Program pageInterface α) (s : σ) : List PageExchange :=
  (p.trace serve s).map fun e => (e.1, e.2)

theorem readPages_walk {σ : Type} (repair : List UInt8 → String)
    (serve : Component pageInterface σ) (n : Nat) (objectId : UInt8)
    (result : OwnedDeviceIdentification) (s : σ) :
    PageWalk repair n objectId result
      (pageExchanges serve (readPages repair n objectId result).run s)
      ((readPages repair n objectId result).run.run serve s).1 := by
  rw [readPages, pageExchanges, Fallible.trace_bind, Fallible.run_bind, run_askPage]
  cases hserve : serve objectId s with
  | mk reply s' =>
    show PageWalk repair n objectId result
      (((⟨objectId, (serve objectId s).1⟩ : Sigma pageInterface.Reply) :: _).map _) _
    rw [hserve]
    cases reply with
    | error e => exact .failed rfl
    | ok response =>
      dsimp only
      rw [Fallible.trace_bind, Fallible.run_bind, Fallible.run_ofExcept]
      cases hpage : decodePage response with
      | error e => exact .failed hpage
      | ok page =>
        have hpage : pageOf (.ok response) = .ok page := hpage
        dsimp only
        cases hmore : page.moreFollows with
        | false => exact .last hpage hmore
        | true =>
          cases n with
          | zero => exact .stopped hpage hmore (.inl rfl) _
          | succ n =>
            by_cases hnext : page.nextObjectId ≤ objectId
            · rw [rejectIf_pos hnext]
              exact .stopped hpage hmore (.inr hnext) _
            · rw [rejectIf_neg hnext]
              exact .next hpage hmore (UInt8.not_le.mp hnext)
                (readPages_walk repair serve n page.nextObjectId _ s')

section

variable {σ : Type} {repair : List UInt8 → String} {serve : Component pageInterface σ} {n : Nat}
  {objectId : UInt8} {result : OwnedDeviceIdentification} {s s' : σ} {response : OwnedResponsePdu}
  {page : ReadDeviceIdentificationResponse}

theorem run_readPages_last (hserve : serve objectId s = (.ok response, s'))
    (hpage : decodePage response = .ok page) (hmore : page.moreFollows = false) :
    (readPages repair n objectId result).run.run serve s
      = (.ok (page.objects.foldl (·.record repair) result), s') := by
  rw [readPages, Fallible.run_bind, run_askPage, hserve]
  dsimp only
  rw [Fallible.run_bind, Fallible.run_ofExcept, hpage]
  dsimp only
  rw [hmore]
  rfl

theorem run_readPages_next (hserve : serve objectId s = (.ok response, s'))
    (hpage : decodePage response = .ok page) (hmore : page.moreFollows = true)
    (hnext : objectId < page.nextObjectId) :
    (readPages repair (n + 1) objectId result).run.run serve s
      = (readPages repair n page.nextObjectId
          (page.objects.foldl (·.record repair) result)).run.run serve s' := by
  rw [readPages, Fallible.run_bind, run_askPage, hserve]
  dsimp only
  rw [Fallible.run_bind, Fallible.run_ofExcept, hpage]
  dsimp only
  rw [hmore, rejectIf_neg (UInt8.not_le.mpr hnext)]
  rfl

end

/-! ## Safety -/

section Safety

variable {repair : List UInt8 → String} {n : Nat} {objectId : UInt8}
  {result : OwnedDeviceIdentification} {exchanges : List PageExchange}
  {outcome : Except ClientError OwnedDeviceIdentification}

theorem PageWalk.length_le (h : PageWalk repair n objectId result exchanges outcome) :
    exchanges.length ≤ n + 1 := by
  induction h with
  | next hpage hmore hnext hrest ih => exact Nat.succ_le_succ ih
  | _ => exact Nat.succ_le_succ (Nat.zero_le _)

/-- No request goes back behind the first. -/
theorem PageWalk.le_of_mem (h : PageWalk repair n objectId result exchanges outcome) :
    ∀ e ∈ exchanges, objectId ≤ e.1 := by
  induction h with
  | next hpage hmore hnext hrest ih =>
    refine List.forall_mem_cons.mpr ⟨UInt8.le_refl _, fun e he => ?_⟩
    exact UInt8.le_trans (UInt8.le_of_lt hnext) (ih e he)
  | _ => exact List.forall_mem_singleton.mpr (UInt8.le_refl _)

theorem PageWalk.increasing (h : PageWalk repair n objectId result exchanges outcome) :
    exchanges.Pairwise fun e e' => e.1 < e'.1 := by
  induction h with
  | next hpage hmore hnext hrest ih =>
    exact List.pairwise_cons.mpr
      ⟨fun e he => UInt8.lt_of_lt_of_le hnext (hrest.le_of_mem e he), ih⟩
  | _ => exact List.pairwise_singleton _ _

/-- The objects in the pages of the exchanges. -/
def consumedObjects (exchanges : List PageExchange) : List DeviceIdObjectEntry :=
  exchanges.flatMap fun e =>
    match pageOf e.2 with
    | .ok page => page.objects
    | .error _ => []

/-- A call that returns has taken a page from each of its exchanges, and recorded all of
their objects. -/
theorem PageWalk.returned (h : PageWalk repair n objectId result exchanges outcome)
    {id : OwnedDeviceIdentification} (hok : outcome = .ok id) :
    (∀ e ∈ exchanges, ∃ page, pageOf e.2 = .ok page) ∧
      id = (consumedObjects exchanges).foldl (·.record repair) result := by
  induction h with
  | failed hpage => cases hok
  | stopped hpage hmore hstop e => cases hok
  | last hpage hmore =>
    cases hok
    refine ⟨List.forall_mem_singleton.mpr ⟨_, hpage⟩, ?_⟩
    rw [consumedObjects, List.flatMap_singleton, hpage]
  | next hpage hmore hnext hrest ih =>
    obtain ⟨hpages, hid⟩ := ih hok
    refine ⟨List.forall_mem_cons.mpr ⟨⟨_, hpage⟩, hpages⟩, ?_⟩
    rw [hid, consumedObjects, consumedObjects, List.flatMap_cons, List.foldl_append, hpage]

/-- The value of the last object with a given id. -/
def lastValue (id : UInt8) (objects : List DeviceIdObjectEntry) : Option (List UInt8) :=
  (objects.reverse.find? fun o => o.id == id).map (·.value)

theorem lastValue_concat (id : UInt8) (objects : List DeviceIdObjectEntry)
    (o : DeviceIdObjectEntry) :
    lastValue id (objects ++ [o]) = if o.id = id then some o.value else lastValue id objects := by
  rw [lastValue, List.reverse_concat, List.find?_cons]
  by_cases h : o.id = id
  · rw [if_pos h, beq_iff_eq.mpr h]
    rfl
  · rw [if_neg h, beq_false_of_ne h]
    rfl

/-- Recording keeps the last value of each object. -/
theorem foldl_record (repair : List UInt8 → String) (objects : List DeviceIdObjectEntry) :
    objects.foldl (fun r o => r.record repair o) ({} : OwnedDeviceIdentification) =
      { vendorName := (lastValue 0x00 objects).map (fromUtf8Lossy repair)
        productCode := (lastValue 0x01 objects).map (fromUtf8Lossy repair)
        majorMinorRevision := (lastValue 0x02 objects).map (fromUtf8Lossy repair) } := by
  rw [← objects.reverse_reverse]
  induction objects.reverse with
  | nil => rfl
  | cons o before ih =>
    rw [List.reverse_cons, List.foldl_append, ih]
    simp only [lastValue_concat, List.foldl_cons, List.foldl_nil, OwnedDeviceIdentification.record]
    split
    next h => simp [h]
    next h => simp [h]
    next h => simp [h]
    next h0 h1 h2 => rw [if_neg h0, if_neg h1, if_neg h2]

theorem pageOf_eq_ok {reply : Except ClientError OwnedResponsePdu}
    {page : ReadDeviceIdentificationResponse} :
    pageOf reply = .ok page ↔ ∃ mei, reply = .ok (.encapsulatedInterface mei) ∧
      ReadDeviceIdentificationResponse.decode (0x0E :: mei.data) = .ok page := by
  constructor
  · intro h
    cases reply with
    | error e => cases h
    | ok response =>
      cases response with
      | encapsulatedInterface mei =>
        have h : (ReadDeviceIdentificationResponse.decode (0x0E :: mei.data)).mapError
          ClientError.codec = .ok page := h
        cases hdec : ReadDeviceIdentificationResponse.decode (0x0E :: mei.data) with
        | ok p =>
          rw [hdec] at h
          cases h
          exact ⟨mei, rfl, hdec⟩
        | error e =>
          rw [hdec] at h
          cases h
      -- any other response has been refused
      | _ => cases (show (.error _ : Except ClientError _) = .ok page from h)
  · rintro ⟨mei, rfl, h⟩
    show (ReadDeviceIdentificationResponse.decode (0x0E :: mei.data)).mapError _ = _
    rw [h]
    rfl

/-- What a call of the method may do and return. -/
structure IdentificationSafe (repair : List UInt8 → String) (exchanges : List PageExchange)
    (outcome : Except ClientError OwnedDeviceIdentification) : Prop where
  requests : exchanges.length ≤ 3
  increasing : exchanges.Pairwise fun e e' => e.1 < e'.1
  pages : ∀ id, outcome = .ok id → ∀ e ∈ exchanges, ∃ mei page,
    e.2 = .ok (.encapsulatedInterface mei) ∧ mei.meiType = .readDeviceIdentification ∧
      ReadDeviceIdentificationResponse.decode mei.body = .ok page
  fields : ∀ id, outcome = .ok id →
    id = { vendorName := (lastValue 0x00 (consumedObjects exchanges)).map (fromUtf8Lossy repair)
           productCode := (lastValue 0x01 (consumedObjects exchanges)).map (fromUtf8Lossy repair)
           majorMinorRevision :=
            (lastValue 0x02 (consumedObjects exchanges)).map (fromUtf8Lossy repair) }

/-- Only the MEI type of a consumed page is left to the other end. -/
theorem PageWalk.safe_iff (h : PageWalk repair 2 objectId {} exchanges outcome) :
    IdentificationSafe repair exchanges outcome ↔
      ∀ id, outcome = .ok id → ∀ e ∈ exchanges, ∀ mei,
        e.2 = .ok (.encapsulatedInterface mei) → mei.meiType ≠ .canOpenGeneralReference := by
  constructor
  · intro hsafe id hok e he mei hmei hcanOpen
    obtain ⟨mei', page, hmei', htype, -⟩ := hsafe.pages id hok e he
    rw [hmei] at hmei'
    cases hmei'
    rw [hcanOpen] at htype
    cases htype
  · intro hmei
    refine ⟨h.length_le, h.increasing, fun id hok e he => ?_, fun id hok => ?_⟩
    · obtain ⟨page, hpage⟩ := (h.returned hok).1 e he
      obtain ⟨mei, hreply, hdecode⟩ := pageOf_eq_ok.mp hpage
      have htype : mei.meiType = .readDeviceIdentification := by
        cases htype : mei.meiType with
        | canOpenGeneralReference => exact absurd htype (hmei id hok e he mei hreply)
        | readDeviceIdentification => rfl
      refine ⟨mei, page, hreply, htype, ?_⟩
      rw [EncapsulatedInterface.body, htype]
      exact hdecode
    · rw [(h.returned hok).2, foldl_record]

end Safety

/-! ## The method -/

section Method

variable {σ : Type}

/-- The other end as the loop sees it: behind the retries of `send_with_retry`. -/
def pageServer (retry : RetryConfig) (unitId : UnitId) (serve : Component exchangeInterface σ) :
    Component pageInterface σ :=
  fun objectId s => (requestPage retry unitId objectId).run.run serve s

/-- The requests of a call of the method, each with what `send_with_retry` returned. -/
def identificationExchanges (repair : List UInt8 → String) (retry : RetryConfig) (unitId : UnitId)
    (serve : Component exchangeInterface σ) (s : σ) : List PageExchange :=
  if unitId = 0 then []
  else pageExchanges (pageServer retry unitId serve)
    (readPages repair (maxBasicDeviceIdResponsePages.toNat - 1) 0x00 {}).run s

/-- The bytes of a request for basic objects. -/
def basicRequest (objectId : UInt8) : List UInt8 := [0x2B, 0x0E, 0x01, objectId]

theorem pageServer_eq (retry : RetryConfig) (unitId : UnitId)
    (serve : Component exchangeInterface σ) (objectId : UInt8) (s : σ) :
    pageServer retry unitId serve objectId s =
      (sendWithRetry retry unitId .encapsulatedInterfaceTransport (basicRequest objectId)
        .replaySafe).run.run serve s := rfl

theorem run_readDeviceIdentification (repair : List UInt8 → String) (retry : RetryConfig)
    {unitId : UnitId} (hunit : unitId ≠ 0) (serve : Component exchangeInterface σ) (s : σ) :
    (readDeviceIdentification repair retry unitId).run.run serve s =
      (readPages repair (maxBasicDeviceIdResponsePages.toNat - 1) 0x00 {}).run.run
        (pageServer retry unitId serve) s := by
  rw [readDeviceIdentification, Fallible.run_bind, orReturn, Fallible.run_ofExcept,
    rejectIf_neg hunit]
  exact Program.run_interpret serve _ _ s

/-- An end that answers every request with one PDU. -/
def constantServer (pdu : List UInt8) : Component exchangeInterface Unit
  | .request _ _ _, s => ((OwnedResponsePdu.fromPdu pdu).mapError .codec, s)
  | .broadcast _, s => (.ok (), s)

/-- An empty page under the MEI type of CANopen. -/
def canOpenPdu : List UInt8 := [0x2B, 0x0D, 0x01, 0x01, 0x00, 0x00, 0x00]

end Method

end RustyModbus.Client
