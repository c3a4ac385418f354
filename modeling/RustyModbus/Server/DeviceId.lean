import RustyModbus.Server.Reply

/-!
# Read Device Identification

The server answers from its configured strings: one object by number, or a page of a
stream, as many objects from the requested one on as fit a PDU. The configuration is not
checked anywhere, so a string may be longer than any response; such an object is answered
with `ServerDeviceFailure` and never put on the wire.
-/

namespace RustyModbus.Server

open Wire

structure DeviceIdentification where
  vendorName : String
  productCode : String
  majorMinorRevision : String
  vendorUrl : Option String
  productName : Option String
  modelName : Option String
  userApplicationName : Option String
deriving DecidableEq, Repr

def deviceIdResponseHeaderLen : Nat := 7
def deviceIdObjectHeaderLen : Nat := 2
def deviceIdRequestLen : Nat := 2
def basicDeviceIdObjectCount : Nat := 3
def maxDeviceIdObjectValueLen : Nat :=
  maxPduSize - deviceIdResponseHeaderLen - deviceIdObjectHeaderLen

structure DeviceIdObject where
  id : UInt8
  value : List UInt8
deriving DecidableEq, Repr

def asBytes (s : String) : List UInt8 := s.toUTF8.toList

def configuredObjects (deviceId : DeviceIdentification) : List DeviceIdObject :=
  [{ id := 0x00, value := asBytes deviceId.vendorName },
    { id := 0x01, value := asBytes deviceId.productCode },
    { id := 0x02, value := asBytes deviceId.majorMinorRevision }] ++
  (deviceId.vendorUrl.map fun v => { id := 0x03, value := asBytes v }).toList ++
  (deviceId.productName.map fun v => { id := 0x04, value := asBytes v }).toList ++
  (deviceId.modelName.map fun v => { id := 0x05, value := asBytes v }).toList ++
  (deviceId.userApplicationName.map fun v => { id := 0x06, value := asBytes v }).toList

def conformityLevel (deviceId : DeviceIdentification) : UInt8 :=
  if deviceId.vendorUrl.isSome ∨ deviceId.productName.isSome ∨ deviceId.modelName.isSome ∨
      deviceId.userApplicationName.isSome
    then 0x82 else 0x81

def deviceIdException (exception : ExceptionCode) : List UInt8 :=
  [FunctionCode.encapsulatedInterfaceTransport.exceptionCode, exception.code]

/-- An object on the wire: number, length, value. -/
def DeviceIdObject.wire (object : DeviceIdObject) : List UInt8 :=
  object.id :: UInt8.ofNat object.value.length :: object.value

/-- `build_response`. The expected length the source passes along only sizes the vector. -/
def buildResponse (deviceIdCode : DeviceIdCode) (conformityLevel : UInt8) (moreFollows : Bool)
    (nextObjectId : UInt8) (objects : List DeviceIdObject) : List UInt8 :=
  [FunctionCode.encapsulatedInterfaceTransport.code, 0x0E, deviceIdCode.code, conformityLevel,
    if moreFollows then 0xFF else 0x00, if moreFollows then nextObjectId else 0x00,
    UInt8.ofNat objects.length] ++ objects.flatMap DeviceIdObject.wire

/-- What the loop over the objects of a stream has selected. -/
structure Page where
  selectedCount : Nat
  moreFollows : Bool
  nextObjectId : UInt8
deriving DecidableEq, Repr

/-- Take objects as long as they fit behind `responseLen` bytes. -/
def selectObjects : List DeviceIdObject → Nat → Page
  | [], _ => { selectedCount := 0, moreFollows := false, nextObjectId := 0 }
  | object :: objects, responseLen =>
    let objectLen := deviceIdObjectHeaderLen + object.value.length
    if responseLen + objectLen > maxPduSize then
      { selectedCount := 0, moreFollows := true, nextObjectId := object.id }
    else
      let page := selectObjects objects (responseLen + objectLen)
      { page with selectedCount := page.selectedCount + 1 }

def buildStreamResponse (deviceIdCode : DeviceIdCode) (conformityLevel objectId : UInt8)
    (objects : List DeviceIdObject) : List UInt8 :=
  if objects.any fun object => object.value.length > maxDeviceIdObjectValueLen then
    deviceIdException .serverDeviceFailure
  else
    let start := (objects.findIdx? fun object => object.id == objectId).getD 0
    let page := selectObjects (objects.drop start) deviceIdResponseHeaderLen
    if page.selectedCount = 0 then deviceIdException .serverDeviceFailure
    else
      let selected := (objects.drop start).take page.selectedCount
      buildResponse deviceIdCode conformityLevel page.moreFollows page.nextObjectId selected

def buildDeviceIdResponse (meiData : List UInt8) (deviceId : DeviceIdentification) : List UInt8 :=
  match meiData with
  | [rawDeviceIdCode, objectId] =>
    match DeviceIdCode.fromRaw rawDeviceIdCode with
    | none => deviceIdException .illegalDataValue
    | some deviceIdCode =>
      let objects := configuredObjects deviceId
      let conformityLevel := conformityLevel deviceId
      match deviceIdCode with
      | .individual =>
        match objects.find? fun object => object.id == objectId with
        | none => deviceIdException .illegalDataAddress
        | some object =>
          if object.value.length > maxDeviceIdObjectValueLen then
            deviceIdException .serverDeviceFailure
          else buildResponse deviceIdCode conformityLevel false 0 [object]
      | .basicStream =>
        buildStreamResponse deviceIdCode conformityLevel objectId
          (objects.take basicDeviceIdObjectCount)
      | .regularStream | .extendedStream =>
        buildStreamResponse deviceIdCode conformityLevel objectId objects
  | _ => deviceIdException .illegalDataValue

/-! ## Every response is a reply the decoder takes -/

theorem DeviceIdObject.wire_length (o : DeviceIdObject) : o.wire.length = 2 + o.value.length :=
  Nat.add_comm _ 2

variable {objects : List DeviceIdObject}

/-- The decoder's walk over the objects comes out at the end of what the server wrote. -/
theorem walkObjects_flatMap (hvalues : ∀ o ∈ objects, o.value.length ≤ maxDeviceIdObjectValueLen)
    (done : List UInt8) :
    walkObjects (done ++ objects.flatMap DeviceIdObject.wire) objects.length done.length =
      .ok (done ++ objects.flatMap DeviceIdObject.wire).length := by
  induction objects generalizing done with
  | nil => simp [walkObjects]
  | cons o objects ih =>
    have hlen : o.value.length ≤ 244 := hvalues o List.mem_cons_self
    have ih := ih (fun o' ho' => hvalues o' (List.mem_cons_of_mem _ ho')) (done ++ o.wire)
    have hwire := o.wire_length
    have htotal : (done ++ (o :: objects).flatMap DeviceIdObject.wire).length
        = done.length + (2 + o.value.length)
          + (objects.flatMap DeviceIdObject.wire).length := by
      rw [List.flatMap_cons, List.length_append, List.length_append, hwire]
      omega
    have hbyte : (done ++ (o :: objects).flatMap DeviceIdObject.wire)[done.length + 1]!
        = UInt8.ofNat o.value.length := by
      rw [getElem!_pos _ _ (by omega), List.getElem_append_right (by omega)]
      simp [DeviceIdObject.wire]
    rw [List.length_cons, walkObjects, check_bind_eq_ok, rejectIf_eq_ok, htotal]
    refine ⟨by omega, ?_⟩
    simp only [hbyte, UInt8.toNat_ofNat']
    rw [Nat.mod_eq_of_lt (by omega), check_bind_eq_ok, rejectIf_eq_ok]
    refine ⟨by omega, ?_⟩
    rw [List.append_assoc, ← List.flatMap_cons, List.length_append, hwire] at ih
    rw [ih, htotal]

theorem configuredObjects_length_le (d : DeviceIdentification) :
    (configuredObjects d).length ≤ 7 := by
  have hopt : ∀ {o : Option DeviceIdObject}, o.toList.length ≤ 1 := by
    intro o
    cases o <;> simp
  simp only [configuredObjects, List.length_append, List.length_cons, List.length_nil]
  have h1 := hopt (o := d.vendorUrl.map fun v => ⟨0x03, asBytes v⟩)
  have h2 := hopt (o := d.productName.map fun v => ⟨0x04, asBytes v⟩)
  have h3 := hopt (o := d.modelName.map fun v => ⟨0x05, asBytes v⟩)
  have h4 := hopt (o := d.userApplicationName.map fun v => ⟨0x06, asBytes v⟩)
  omega

theorem validConformityLevel_conformityLevel (d : DeviceIdentification) :
    validConformityLevel (conformityLevel d) = true := by
  rw [conformityLevel]
  split <;> decide

variable {code : DeviceIdCode} {level next : UInt8}

/-- What the decoder reads from a response with a proper list of objects. -/
theorem decode_buildResponse {more : Bool} (hlevel : validConformityLevel level = true)
    (hvalues : ∀ o ∈ objects, o.value.length ≤ maxDeviceIdObjectValueLen)
    (hindividual : code = .individual → objects.length = 1) (hcount : objects.length ≤ 7) :
    ReadDeviceIdentificationResponse.decode ((buildResponse code level more next objects).drop 1) =
      .ok { deviceIdCode := code, conformityLevel := level, moreFollows := more,
            nextObjectId := if more then next else 0x00,
            numObjects := UInt8.ofNat objects.length,
            objectData := objects.flatMap DeviceIdObject.wire } := by
  have hbyte : (UInt8.ofNat objects.length).toNat = objects.length := by
    rw [UInt8.toNat_ofNat']
    omega
  refine @ReadDeviceIdentificationResponse.decode_of_bytes _ code more (Nat.le_add_left 6 _) rfl
    (DeviceIdCode.fromRaw_eq_some.mpr rfl) (fun hcode => ?_) hlevel ?_ ?_ ?_
  · show UInt8.ofNat objects.length = 1
    rw [hindividual hcode]
    rfl
  · cases more <;> rfl
  · rintro rfl
    rfl
  · show walkObjects (objects.flatMap DeviceIdObject.wire) (UInt8.ofNat objects.length).toNat 0
      = .ok (objects.flatMap DeviceIdObject.wire).length
    rw [hbyte]
    exact walkObjects_flatMap hvalues []

/-- The response a built response is on the wire. -/
def pageResponse (pdu : List UInt8) : ResponsePdu :=
  .encapsulatedInterface { meiType := .readDeviceIdentification, data := pdu.drop 2 }

/-- A response with a proper list of objects that fits a PDU is a reply. -/
theorem isReply_buildResponse {more : Bool} (hlevel : validConformityLevel level = true)
    (hvalues : ∀ o ∈ objects, o.value.length ≤ maxDeviceIdObjectValueLen)
    (hindividual : code = .individual → objects.length = 1) (hcount : objects.length ≤ 7)
    (hlen : 7 + (objects.flatMap DeviceIdObject.wire).length ≤ maxPduSize) :
    IsReply .encapsulatedInterfaceTransport (buildResponse code level more next objects) := by
  refine .normal (pageResponse (buildResponse code level more next objects)) id rfl rfl (fun _ =>
    checkIdentificationResponse_eq_ok_iff_decode.mpr
      ⟨_, decode_buildResponse hlevel hvalues hindividual hcount⟩) ?_
  show (objects.flatMap DeviceIdObject.wire).length + 7 ≤ maxPduSize
  omega

theorem flatMap_wire_length_cons (o : DeviceIdObject) (objects : List DeviceIdObject) :
    ((o :: objects).flatMap DeviceIdObject.wire).length
      = 2 + o.value.length + (objects.flatMap DeviceIdObject.wire).length := by
  rw [List.flatMap_cons, List.length_append, o.wire_length]

/-- The selected objects fit. -/
theorem selectObjects_fit (objects : List DeviceIdObject) {n : Nat} (hn : n ≤ maxPduSize) :
    n + ((objects.take (selectObjects objects n).selectedCount).flatMap
      DeviceIdObject.wire).length ≤ maxPduSize := by
  induction objects generalizing n with
  | nil => simpa [selectObjects] using hn
  | cons o objects ih =>
    rw [selectObjects]
    split
    next => simpa using hn
    next hfit =>
      rw [List.take_succ_cons, flatMap_wire_length_cons, ← Nat.add_assoc]
      exact ih (Nat.not_lt.mp hfit)

theorem isReply_buildStreamResponse {level objectId : UInt8}
    (hlevel : validConformityLevel level = true) (hcode : code ≠ .individual)
    (hcount : objects.length ≤ 7) :
    IsReply .encapsulatedInterfaceTransport
      (buildStreamResponse code level objectId objects) := by
  rw [buildStreamResponse]
  split
  next => exact .exception _
  next hany =>
    dsimp only
    split
    next => exact .exception _
    next =>
      refine isReply_buildResponse hlevel ?_ (absurd · hcode) ?_ (selectObjects_fit _ (by decide))
      · intro o ho
        have hmem := List.mem_of_mem_drop (List.mem_of_mem_take ho)
        simp only [List.any_eq_true, decide_eq_true_eq, not_exists, not_and, Nat.not_lt] at hany
        exact hany o hmem
      · rw [List.length_take, List.length_drop]
        omega

theorem isReply_buildDeviceIdResponse (meiData : List UInt8) (d : DeviceIdentification) :
    IsReply .encapsulatedInterfaceTransport (buildDeviceIdResponse meiData d) := by
  have hlevel := validConformityLevel_conformityLevel d
  have hcount := configuredObjects_length_le d
  unfold buildDeviceIdResponse
  split
  next rawCode objectId =>
    cases DeviceIdCode.fromRaw rawCode with
    | none => exact .exception _
    | some code =>
      cases code with
      | individual =>
        dsimp only
        cases (configuredObjects d).find? fun object => object.id == objectId with
        | none => exact .exception _
        | some object =>
          dsimp only
          split
          next => exact .exception _
          next hlen =>
            have hvalue : object.value.length ≤ 244 := Nat.not_lt.mp hlen
            refine isReply_buildResponse hlevel ?_ (fun _ => rfl) (show 1 ≤ 7 by decide) ?_
            · intro o ho
              obtain rfl := List.mem_singleton.mp ho
              exact hvalue
            · rw [flatMap_wire_length_cons]
              show 7 + (2 + object.value.length + 0) ≤ 253
              omega
      | basicStream =>
        refine isReply_buildStreamResponse hlevel nofun ?_
        rw [List.length_take]
        omega
      | regularStream | extendedStream => exact isReply_buildStreamResponse hlevel nofun hcount
  next => exact .exception _

/-! ## The pages of a stream -/

/-- An object as the other side reads it. -/
def DeviceIdObject.entry (object : DeviceIdObject) : DeviceIdObjectEntry :=
  { id := object.id, value := object.value }

theorem deviceIdObjects_flatMap
    (hvalues : ∀ o ∈ objects, o.value.length ≤ maxDeviceIdObjectValueLen) :
    deviceIdObjects objects.length (objects.flatMap DeviceIdObject.wire)
      = objects.map DeviceIdObject.entry := by
  induction objects with
  | nil => rfl
  | cons o objects ih =>
    have hlen : o.value.length ≤ 244 := hvalues o List.mem_cons_self
    have hbyte : (UInt8.ofNat o.value.length).toNat = o.value.length := by
      rw [UInt8.toNat_ofNat']
      omega
    have hroom : ¬(o.value ++ objects.flatMap DeviceIdObject.wire).length < o.value.length := by
      rw [List.length_append]
      omega
    rw [List.flatMap_cons, List.length_cons]
    show deviceIdObjects (objects.length + 1) (o.id :: UInt8.ofNat o.value.length ::
      (o.value ++ objects.flatMap DeviceIdObject.wire)) = _
    rw [deviceIdObjects, hbyte, if_neg hroom, List.take_left, List.drop_left,
      ih fun o' ho' => hvalues o' (List.mem_cons_of_mem _ ho')]
    rfl

/-- What the loop leaves is announced: the first object that did not fit is the next one. -/
theorem selectObjects_announces (objects : List DeviceIdObject) (n : Nat) :
    (selectObjects objects n).moreFollows
        = !(objects.drop (selectObjects objects n).selectedCount).isEmpty ∧
      ∀ o later, objects.drop (selectObjects objects n).selectedCount = o :: later →
        (selectObjects objects n).nextObjectId = o.id := by
  induction objects generalizing n with
  | nil => exact ⟨rfl, fun o later h => nomatch h⟩
  | cons o objects ih =>
    rw [selectObjects]
    split
    next =>
      refine ⟨rfl, fun o' later h => ?_⟩
      cases h
      rfl
    next => exact ih _

variable {o : DeviceIdObject}

/-- An object of the largest admitted length fits a page of its own. -/
theorem selectObjects_progress (objects : List DeviceIdObject)
    (h : o.value.length ≤ maxDeviceIdObjectValueLen) :
    (selectObjects (o :: objects) deviceIdResponseHeaderLen).selectedCount ≠ 0 := by
  have hfit : ¬deviceIdResponseHeaderLen + (deviceIdObjectHeaderLen + o.value.length)
      > maxPduSize := by
    have hlen : o.value.length ≤ 244 := h
    show ¬7 + (2 + o.value.length) > 253
    omega
  rw [selectObjects, if_neg hfit]
  exact Nat.succ_ne_zero _

variable {before : List DeviceIdObject} {after : List DeviceIdObject}

/-- A stream is taken up at the object asked for. -/
theorem drop_findIdx? (hids : (before ++ o :: after).Pairwise fun x y => x.id < y.id) :
    (before ++ o :: after).drop
      (((before ++ o :: after).findIdx? fun x => x.id == o.id).getD 0) = o :: after := by
  have hbefore : before.findIdx? (fun x => x.id == o.id) = none := by
    rw [List.findIdx?_eq_none_iff]
    intro x hx
    have hlt : x.id < o.id := (List.pairwise_append.mp hids).2.2 x hx o List.mem_cons_self
    exact beq_false_of_ne fun heq => UInt8.lt_irrefl _ (heq ▸ hlt)
  rw [List.findIdx?_append, hbefore, List.findIdx?_cons, beq_self_eq_true]
  exact List.drop_left' (Nat.zero_add _).symm

/-- The bytes of a page: a response with the objects `taken` which announces `later`. -/
structure IsPage (pdu : List UInt8) (taken later : List DeviceIdObject)
    (page : ReadDeviceIdentificationResponse) : Prop where
  wire : (pageResponse pdu).wire = pdu
  valid : (pageResponse pdu).Valid
  length_le : pdu.length ≤ maxPduSize
  decode : ReadDeviceIdentificationResponse.decode (pdu.drop 1) = .ok page
  objects : page.objects = taken.map DeviceIdObject.entry
  moreFollows : page.moreFollows = !later.isEmpty
  nextObjectId : ∀ o rest, later = o :: rest → page.nextObjectId = o.id

theorem IsPage.decodeResponse {pdu : List UInt8} {taken later : List DeviceIdObject}
    {page : ReadDeviceIdentificationResponse} (h : IsPage pdu taken later page) :
    decodeResponse pdu = .ok (pageResponse pdu) :=
  decodeResponse_eq_ok.mpr ⟨h.wire.symm, h.valid, h.length_le⟩

theorem isPage_buildResponse {more : Bool} {taken later : List DeviceIdObject}
    (hlevel : validConformityLevel level = true)
    (hvalues : ∀ o ∈ taken, o.value.length ≤ maxDeviceIdObjectValueLen) (hcode : code ≠ .individual)
    (hcount : taken.length ≤ 7) (hlen : 7 + (taken.flatMap DeviceIdObject.wire).length ≤ maxPduSize)
    (hmore : more = !later.isEmpty) (hnext : ∀ o rest, later = o :: rest → next = o.id) :
    ∃ page, IsPage (buildResponse code level more next taken) taken later page := by
  have hdecode := @decode_buildResponse taken code level next more hlevel hvalues
    (absurd · hcode) hcount
  refine ⟨_, ⟨rfl, fun _ => checkIdentificationResponse_eq_ok_iff_decode.mpr ⟨_, hdecode⟩, ?_,
    hdecode, ?_, hmore, fun o rest hlater => ?_⟩⟩
  · show (taken.flatMap DeviceIdObject.wire).length + 7 ≤ maxPduSize
    omega
  · have hbyte : (UInt8.ofNat taken.length).toNat = taken.length := by
      rw [UInt8.toNat_ofNat']
      omega
    show deviceIdObjects (UInt8.ofNat taken.length).toNat _ = _
    rw [hbyte]
    exact deviceIdObjects_flatMap hvalues
  · show (if more then next else 0x00) = o.id
    rw [hmore, hlater]
    exact hnext o rest hlater

/-- The page at an object of the stream carries it and as many of those behind it as fit. -/
theorem isPage_buildStreamResponse {level : UInt8} (hlevel : validConformityLevel level = true)
    (hcode : code ≠ .individual)
    (hvalues : ∀ x ∈ before ++ o :: after, x.value.length ≤ maxDeviceIdObjectValueLen)
    (hcount : (before ++ o :: after).length ≤ 7)
    (hids : (before ++ o :: after).Pairwise fun x y => x.id < y.id) :
    ∃ taken later page, taken ≠ [] ∧ o :: after = taken ++ later ∧
      IsPage (buildStreamResponse code level o.id (before ++ o :: after)) taken later page := by
  have hany : ¬(before ++ o :: after).any (fun x => x.value.length > maxDeviceIdObjectValueLen) := by
    simp only [List.any_eq_true, decide_eq_true_eq, not_exists, not_and, Nat.not_lt]
    exact hvalues
  have hrest : ∀ x ∈ o :: after, x.value.length ≤ maxDeviceIdObjectValueLen := fun x hx =>
    hvalues x (List.mem_append_right before hx)
  have hprogress := selectObjects_progress after (hrest o List.mem_cons_self)
  obtain ⟨hmore, hnext⟩ := selectObjects_announces (o :: after) deviceIdResponseHeaderLen
  have htaken : ((o :: after).take
      (selectObjects (o :: after) deviceIdResponseHeaderLen).selectedCount).length ≤ 7 := by
    rw [List.length_append] at hcount
    rw [List.length_take]
    omega
  obtain ⟨page, hpage⟩ := @isPage_buildResponse code level _ _ _ _ hlevel
    (fun x hx => hrest x (List.mem_of_mem_take hx)) hcode htaken
    (selectObjects_fit _ (by decide)) hmore hnext
  rw [buildStreamResponse, if_neg hany]
  dsimp only
  rw [drop_findIdx? hids, if_neg hprogress]
  refine ⟨_, _, page, ?_, ?_, hpage⟩
  · intro hnil
    rcases List.take_eq_nil_iff.mp hnil with h | h
    · exact hprogress h
    · cases h
  · exact (List.take_append_drop _ _).symm

/-- The objects a stream access code is about: all of them, or the basic ones. -/
def streamObjects (code : DeviceIdCode) (d : DeviceIdentification) : List DeviceIdObject :=
  match code with
  | .basicStream => (configuredObjects d).take basicDeviceIdObjectCount
  | _ => configuredObjects d

theorem configuredObjects_increasing (d : DeviceIdentification) :
    (configuredObjects d).Pairwise fun x y => x.id < y.id := by
  obtain ⟨_, _, _, url, name, model, app⟩ := d
  cases url <;> cases name <;> cases model <;> cases app <;> simp [configuredObjects]

theorem streamObjects_increasing (code : DeviceIdCode) (d : DeviceIdentification) :
    (streamObjects code d).Pairwise fun x y => x.id < y.id := by
  cases code with
  | basicStream => exact (configuredObjects_increasing d).take
  | _ => exact configuredObjects_increasing d

theorem streamObjects_length_le (code : DeviceIdCode) (d : DeviceIdentification) :
    (streamObjects code d).length ≤ 7 := by
  cases code with
  | basicStream => exact show 3 ≤ 7 by decide
  | _ => exact configuredObjects_length_le d

theorem buildDeviceIdResponse_stream (hcode : code ≠ .individual) (objectId : UInt8)
    (d : DeviceIdentification) :
    buildDeviceIdResponse [code.code, objectId] d
      = buildStreamResponse code (conformityLevel d) objectId (streamObjects code d) := by
  cases code with
  | individual => exact absurd rfl hcode
  | _ => rfl

/-- Asked for an object of the stream, a server with values of admitted length answers with
a page. -/
theorem isPage_buildDeviceIdResponse (hcode : code ≠ .individual) {d : DeviceIdentification}
    (hvalues : ∀ x ∈ configuredObjects d, x.value.length ≤ maxDeviceIdObjectValueLen)
    (hobjects : streamObjects code d = before ++ o :: after) :
    ∃ taken later page, taken ≠ [] ∧ o :: after = taken ++ later ∧
      IsPage (buildDeviceIdResponse [code.code, o.id] d) taken later page := by
  have hids := streamObjects_increasing code d
  have hcount := streamObjects_length_le code d
  have hstream : ∀ x ∈ streamObjects code d, x.value.length ≤ maxDeviceIdObjectValueLen := by
    intro x hx
    cases code with
    | basicStream => exact hvalues x (List.mem_of_mem_take hx)
    | _ => exact hvalues x hx
  rw [buildDeviceIdResponse_stream hcode, hobjects]
  rw [hobjects] at hids hcount hstream
  exact isPage_buildStreamResponse (validConformityLevel_conformityLevel d) hcode hstream hcount hids

end RustyModbus.Server
