import RustyModbus.Client.Identification
import RustyModbus.Client.Session

/-!
# Device identification, page by page

A server splits its identification objects into pages, as many objects as fit a PDU in
each, and a client asks for one page after the other. As long as no value is longer than
what fits a page of its own, every page carries at least the object asked for. So the
pages come to an end, and put together they are the configured objects; and a client,
which takes three pages and no more, has all basic objects by then.
-/

namespace RustyModbus.EndToEnd

open Wire Interaction Server Client

/-- Follow a stream: ask for the page at `objectId`, and go on at the object it announces
while more follows. At most `fuel` pages are asked for. -/
def followPages (respond : UInt8 → Option (List UInt8)) :
    Nat → UInt8 → Option (List (List UInt8 × ReadDeviceIdentificationResponse))
  | 0, _ => none
  | fuel + 1, objectId => do
    let pdu ← respond objectId
    let .encapsulatedInterface mei ← (decodeResponse pdu).toOption | none
    let page ← (ReadDeviceIdentificationResponse.decode mei.body).toOption
    if page.moreFollows then
      return (pdu, page) :: (← followPages respond fuel page.nextObjectId)
    else return [(pdu, page)]

/-! ## The server -/

section Server

variable {σ : Type} {d : DeviceIdentification}

/-- What a server answers to a request for the objects from `objectId` on. -/
def respond (store : DataStore σ) (s : σ) (d : DeviceIdentification) (unitId : UnitId)
    (code : DeviceIdCode) (objectId : UInt8) : Option (List UInt8) :=
  ((processRequest [0x2B, 0x0E, code.code, objectId] unitId d).run store s).1

theorem run_processRequest_identification (store : DataStore σ) (s : σ) {unitId : UnitId}
    (hunit : unitId ≠ 0) (code : DeviceIdCode) (objectId : UInt8) :
    (processRequest [0x2B, 0x0E, code.code, objectId] unitId d).run store s
      = (some (buildDeviceIdResponse [code.code, objectId] d), s) := by
  let request : RequestPdu := .encapsulatedInterface
    { meiType := .readDeviceIdentification, data := [code.code, objectId] }
  have hvalid : request.Valid := by
    intro _
    cases code <;> rfl
  exact run_processRequest_wire store s d hvalid (show 4 ≤ 253 by decide) hunit

theorem IsPage.followPages_eq {respond : UInt8 → Option (List UInt8)} {objectId : UInt8}
    {pdu : List UInt8} {taken later : List DeviceIdObject}
    {page : ReadDeviceIdentificationResponse} (h : IsPage pdu taken later page)
    (hrespond : respond objectId = some pdu) (fuel : Nat) :
    followPages respond (fuel + 1) objectId =
      if page.moreFollows then
        (followPages respond fuel page.nextObjectId).map ((pdu, page) :: ·)
      else some [(pdu, page)] := by
  have hbody : ReadDeviceIdentificationResponse.decode
      (MeiType.readDeviceIdentification.code :: pdu.drop 2) = .ok page := by
    rw [← h.decode]
    exact congrArg (fun l => ReadDeviceIdentificationResponse.decode (l.drop 1)) h.wire
  rw [followPages, hrespond]
  show ((decodeResponse pdu).toOption >>= _) = _
  rw [h.decodeResponse]
  show ((ReadDeviceIdentificationResponse.decode
    (MeiType.readDeviceIdentification.code :: pdu.drop 2)).toOption >>= _) = _
  rw [hbody]
  show (if page.moreFollows then
      followPages respond fuel page.nextObjectId >>= fun pages => pure ((pdu, page) :: pages)
    else pure [(pdu, page)]) = _
  split
  next => cases followPages respond fuel page.nextObjectId <;> rfl
  next => rfl

/-- The pages of a stream: where they end, what is in them, and that they can be sent. -/
structure Paginates (respond : UInt8 → Option (List UInt8)) (objectId : UInt8)
    (objects : List DeviceIdObject)
    (pages : List (List UInt8 × ReadDeviceIdentificationResponse)) : Prop where
  ends : ∀ fuel, objects.length ≤ fuel → followPages respond fuel objectId = some pages
  objects : pages.flatMap (·.2.objects) = objects.map DeviceIdObject.entry
  sendable : ∀ p ∈ pages, p.1.length ≤ 253 ∧ ∃ response, decodeResponse p.1 = .ok response

/-- From every object of the stream on, the pages carry the rest of it. -/
theorem paginates_from {store : DataStore σ} {s : σ} {unitId : UnitId} (hunit : unitId ≠ 0)
    (hvalues : ∀ x ∈ configuredObjects d, x.value.length ≤ maxDeviceIdObjectValueLen)
    {code : DeviceIdCode} (hcode : code ≠ .individual) (n : Nat)
    {before : List DeviceIdObject} {o : DeviceIdObject} {after : List DeviceIdObject}
    (hobjects : streamObjects code d = before ++ o :: after) (hn : (o :: after).length ≤ n) :
    ∃ pages, Paginates (respond store s d unitId code) o.id (o :: after) pages := by
  induction n generalizing before o after with
  | zero => exact absurd hn (Nat.not_succ_le_zero _)
  | succ n ih =>
    obtain ⟨taken, later, page, htaken, hsplit, hpage⟩ :=
      isPage_buildDeviceIdResponse hcode hvalues hobjects
    have hrespond := congrArg Prod.fst
      (@run_processRequest_identification _ d store s unitId hunit code o.id)
    generalize buildDeviceIdResponse [code.code, o.id] d = pdu at hpage hrespond
    have hsend : pdu.length ≤ 253 ∧ ∃ response, decodeResponse pdu = .ok response :=
      ⟨hpage.length_le, _, hpage.decodeResponse⟩
    have hmore := hpage.moreFollows
    have hshorter : later.length < (o :: after).length := by
      rw [hsplit, List.length_append]
      exact Nat.lt_add_of_pos_left (List.length_pos_iff.mpr htaken)
    cases later with
    | nil =>
      refine ⟨[(pdu, page)], fun fuel hfuel => ?_, ?_, List.forall_mem_singleton.mpr hsend⟩
      · obtain ⟨fuel, rfl⟩ : ∃ k, fuel = k + 1 := ⟨fuel - 1, by omega⟩
        rw [IsPage.followPages_eq hpage hrespond, hmore]
        rfl
      · rw [List.flatMap_singleton, hpage.objects, hsplit, List.append_nil]
    | cons o' rest =>
      have hobjects' : streamObjects code d = (before ++ taken) ++ o' :: rest := by
        rw [hobjects, hsplit, List.append_assoc]
      obtain ⟨pages, hpages⟩ := ih hobjects' (by omega)
      refine ⟨(pdu, page) :: pages, fun fuel hfuel => ?_, ?_,
        List.forall_mem_cons.mpr ⟨hsend, hpages.sendable⟩⟩
      · obtain ⟨fuel, rfl⟩ : ∃ k, fuel = k + 1 := ⟨fuel - 1, by omega⟩
        rw [IsPage.followPages_eq hpage hrespond, hmore, hpage.nextObjectId o' rest rfl,
          hpages.ends fuel (by omega)]
        rfl
      · rw [List.flatMap_cons, hpages.objects, hpage.objects, hsplit, List.map_append]

end Server

/-! ## The client -/

theorem fromUtf8Lossy_asBytes (repair : List UInt8 → String) (value : String) :
    fromUtf8Lossy repair (asBytes value) = value := by
  rw [fromUtf8Lossy, asBytes, toByteArray_toList]
  have hvalid : String.fromUTF8? value.toUTF8 = some value := dif_pos value.isValidUTF8
  rw [hvalid]
  rfl

theorem IsPage.decodePage_eq {pdu : List UInt8} {taken later : List DeviceIdObject}
    {page : ReadDeviceIdentificationResponse} (h : IsPage pdu taken later page) :
    decodePage (pageResponse pdu) = .ok page := by
  refine @pageOf_eq_ok (.ok (pageResponse pdu)) page |>.mpr ⟨_, rfl, ?_⟩
  rw [← h.decode]
  exact congrArg (fun l => ReadDeviceIdentificationResponse.decode (l.drop 1)) h.wire

section Client

variable {σ : Type} {store : DataStore σ} {s : σ} {d : DeviceIdentification} {unitId : UnitId}

/-- A request of the client is answered with the page. -/
theorem pageServer_page (hunit : unitId ≠ 0) (retry : RetryConfig) {objectId : UInt8}
    {taken later : List DeviceIdObject} {page : ReadDeviceIdentificationResponse}
    (hpage : IsPage (buildDeviceIdResponse [DeviceIdCode.basicStream.code, objectId] d)
      taken later page) {m : TransactionManager} (hm : m.Idle) (sent : List Frame) :
    ∃ m' frame, m'.Idle ∧
      pageServer retry unitId (link (handleFrame store d)) objectId
          { txnMgr := m, server := s, sent } =
        (.ok (pageResponse (buildDeviceIdResponse [DeviceIdCode.basicStream.code, objectId] d)),
          { txnMgr := m', server := s, sent := sent ++ [frame] }) := by
  have hanswers : Answers store d unitId .encapsulatedInterfaceTransport (basicRequest objectId) s
      (pageResponse (buildDeviceIdResponse [DeviceIdCode.basicStream.code, objectId] d)) s := by
    refine ⟨?_, rfl, hpage.valid, hpage.wire.symm ▸ hpage.length_le⟩
    rw [hpage.wire]
    exact run_processRequest_identification store s hunit .basicStream objectId
  rw [pageServer_eq]
  refine run_sendWithRetry hanswers (fun exc hexc => ?_) (Nat.succ_pos 3) (show 4 ≤ 253 by decide)
    retry _ hm sent
  cases hexc

/-- The object a page announces comes after the one it was asked for. -/
theorem id_lt_next {before : List DeviceIdObject} {o : DeviceIdObject}
    {after taken : List DeviceIdObject} {o' : DeviceIdObject} {rest : List DeviceIdObject}
    (hids : (before ++ o :: after).Pairwise fun x y => x.id < y.id) (htaken : taken ≠ [])
    (hsplit : o :: after = taken ++ o' :: rest) : o.id < o'.id := by
  have hafter := (List.pairwise_cons.mp (List.pairwise_append.mp hids).2.1).1
  cases taken with
  | nil => exact absurd rfl htaken
  | cons t ts =>
    obtain ⟨-, rfl⟩ := List.cons.inj hsplit
    exact hafter o' (List.mem_append_right ts List.mem_cons_self)

/-- The loop gets the rest of the basic objects, one page for each at most. -/
theorem run_readPages (hunit : unitId ≠ 0)
    (hvalues : ∀ x ∈ configuredObjects d, x.value.length ≤ maxDeviceIdObjectValueLen)
    (repair : List UInt8 → String) (retry : RetryConfig) (n : Nat)
    {before : List DeviceIdObject} {o : DeviceIdObject} {after : List DeviceIdObject}
    (hobjects : streamObjects .basicStream d = before ++ o :: after)
    (hn : (o :: after).length ≤ n + 1) (result : OwnedDeviceIdentification)
    {m : TransactionManager} (hm : m.Idle) (sent : List Frame) :
    ∃ m' frames, m'.Idle ∧ frames.length ≤ n + 1 ∧
      (readPages repair n o.id result).run.run
          (pageServer retry unitId (link (handleFrame store d)))
          { txnMgr := m, server := s, sent } =
        (.ok (((o :: after).map DeviceIdObject.entry).foldl (·.record repair) result),
          { txnMgr := m', server := s, sent := sent ++ frames }) := by
  obtain ⟨taken, later, page, htaken, hsplit, hpage⟩ :=
    isPage_buildDeviceIdResponse (by decide) hvalues hobjects
  obtain ⟨m₁, frame, hm₁, hserve⟩ := @pageServer_page _ store s d unitId hunit retry _ _ _ _ hpage
    m hm sent
  have hdecode := IsPage.decodePage_eq hpage
  have hmore := hpage.moreFollows
  have hlength := congrArg List.length hsplit
  have hpos := List.length_pos_iff.mpr htaken
  rw [List.length_append] at hlength
  rw [hsplit, List.map_append, List.foldl_append, ← hpage.objects]
  cases later with
  | nil => exact ⟨m₁, [frame], hm₁, Nat.le_add_left 1 n, run_readPages_last hserve hdecode hmore⟩
  | cons o' rest =>
    have hobjects' : streamObjects .basicStream d = (before ++ taken) ++ o' :: rest := by
      rw [hobjects, hsplit, List.append_assoc]
    have hnext : o.id < page.nextObjectId := by
      rw [hpage.nextObjectId o' rest rfl]
      exact id_lt_next (hobjects ▸ streamObjects_increasing .basicStream d) htaken hsplit
    cases n with
    | zero =>
      simp only [List.length_cons] at hn hlength
      omega
    | succ n =>
      obtain ⟨m₂, frames, hm₂, hframes, hrun⟩ := run_readPages hunit hvalues repair retry n
        hobjects' (by omega) (page.objects.foldl (·.record repair) result) hm₁ (sent ++ [frame])
      refine ⟨m₂, frame :: frames, hm₂, Nat.succ_le_succ hframes, ?_⟩
      rw [run_readPages_next hserve hdecode hmore hnext, hpage.nextObjectId o' rest rfl, hrun,
        List.append_assoc]
      rfl

end Client

/-- The identification of a server whose values are short enough arrives whole. Following a
stream from its first object ends after at most as many pages as there are objects, every
page fits a PDU and is taken by the decoder, and the pages carry the objects of the stream,
in the order of their ids. And a client gets the three basic values with at most three
requests. -/
theorem identification_arrives {σ : Type} (store : DataStore σ) (s : σ)
    (d : DeviceIdentification) (hvalues : ∀ o ∈ configuredObjects d, o.value.length ≤ 244)
    {unitId : UnitId} (hunit : unitId ≠ 0) :
    (∀ code, code ≠ .individual →
      (streamObjects code d).Pairwise (fun x y => x.id < y.id) ∧
      ∃ pages, Paginates (respond store s d unitId code) 0x00 (streamObjects code d) pages) ∧
    ∀ (repair : List UInt8 → String) (retry : RetryConfig) (m : TransactionManager), m.Idle →
      ∃ m' frames, m'.Idle ∧ frames.length ≤ 3 ∧
        (readDeviceIdentification repair retry unitId).run.run (link (handleFrame store d))
            { txnMgr := m, server := s, sent := [] } =
          (.ok { vendorName := some d.vendorName
                 productCode := some d.productCode
                 majorMinorRevision := some d.majorMinorRevision },
            { txnMgr := m', server := s, sent := frames }) := by
  constructor
  · intro code hcode
    refine ⟨streamObjects_increasing code d, ?_⟩
    cases code with
    | individual => exact absurd rfl hcode
    | _ =>
      exact @paginates_from _ d store s unitId hunit hvalues _ hcode _ [] _ _ rfl
        (Nat.le_refl _)
  · intro repair retry m hm
    have hbasic : streamObjects .basicStream d = [] ++
        { id := 0x00, value := asBytes d.vendorName } ::
          [{ id := 0x01, value := asBytes d.productCode },
            { id := 0x02, value := asBytes d.majorMinorRevision }] := rfl
    obtain ⟨m', frames, hm', hframes, hrun⟩ := @run_readPages _ store s d unitId hunit hvalues
      repair retry 2 _ _ _ hbasic (Nat.le_refl 3) {} m hm []
    refine ⟨m', frames, hm', hframes, ?_⟩
    rw [run_readDeviceIdentification repair retry hunit]
    refine hrun.trans ?_
    simp only [List.map_cons, List.map_nil, List.foldl_cons, List.foldl_nil, DeviceIdObject.entry,
      OwnedDeviceIdentification.record, fromUtf8Lossy_asBytes, List.nil_append]

def pumpIdentification : DeviceIdentification :=
  { vendorName := "Vendor", productCode := "P-100", majorMinorRevision := "1.2",
    vendorUrl := none, productName := some "Pump", modelName := none, userApplicationName := none }

theorem length_asBytes (value : String) : (asBytes value).length = value.utf8ByteSize := by
  rw [asBytes, ByteArray.toList, toList_loop_eq]
  rfl

theorem identification_arrives_pump :
    (∀ o ∈ configuredObjects pumpIdentification, o.value.length ≤ 244) ∧
      ∃ m frames, frames.length ≤ 3 ∧
        (readDeviceIdentification (fun _ => "") { maxRetries := 3, retryableExceptions := [] }
            1).run.run (link (handleFrame misstatingStore pumpIdentification))
            (Session.quiet 1 ()) =
          (.ok { vendorName := some "Vendor", productCode := some "P-100",
                 majorMinorRevision := some "1.2" },
            { txnMgr := m, server := (), sent := frames }) := by
  have hvalues : ∀ o ∈ configuredObjects pumpIdentification, o.value.length ≤ 244 := by
    simp only [configuredObjects, pumpIdentification, Option.map_none, Option.map_some, Option.toList,
      List.append_nil, List.cons_append, List.nil_append, List.forall_mem_cons, length_asBytes]
    decide
  obtain ⟨m, frames, -, hframes, hrun⟩ := (identification_arrives misstatingStore () pumpIdentification
    hvalues (show (1 : UInt8) ≠ 0 by decide)).2 (fun _ => "")
    { maxRetries := 3, retryableExceptions := [] } { nextId := 1, slots := Vector.replicate _ none } rfl
  exact ⟨hvalues, m, frames, hframes, hrun⟩

end RustyModbus.EndToEnd
