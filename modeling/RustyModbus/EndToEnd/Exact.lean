import RustyModbus.Client.Bounds
import RustyModbus.EndToEnd.Calls

/-!
# Results against any server

A client does not know who answers. Here the other end is an arbitrary `Peer`: to each request it
sends a frame of the same transaction and unit with any bytes it likes. `calls_exact` says what a
call within the limits makes of that. It ends, it returns a value exactly if the last reply is, byte
for byte, the response the protocol has for this request and this value, and no reply makes it read
out of bounds. Replies before the last one are exceptions after which the client has asked again.
-/

namespace RustyModbus.EndToEnd

open Wire Interaction Server Client

/-! ## Peers -/

/-- A server of any behaviour. -/
abbrev Peer (σ : Type) := Frame → σ → SendablePdu × σ

/-- A peer, and what it has replied so far. -/
structure Heard (σ : Type) where
  state : σ
  replies : List SendablePdu

/-- The peer's replies go into frames with the id and the unit of the request. -/
def Peer.serve {σ : Type} (peer : Peer σ) : FrameServer (Heard σ)
  | { header := .mbap h, pdu }, heard =>
    let (reply, state) := peer { header := .mbap h, pdu } heard.state
    (some (requestFrame h.transactionId h.unitId reply),
      { state, replies := heard.replies ++ [reply] })
  | _, heard => (none, heard)

variable {σ : Type} {peer : Peer σ} {retry : RetryConfig} {unitId : UnitId} {fc : FunctionCode}

/-- What the requester gets of a reply. -/
abbrev delivered (unitId : UnitId) (fc : FunctionCode) (reply : SendablePdu) :
    Except ClientError OwnedResponsePdu :=
  deliverResponse { unitId, functionCode := fc } unitId reply.val

/-- One attempt: the reply is delivered, and no trace of the request stays in the client. -/
theorem link_peer (peer : Peer σ) (fc : FunctionCode) (pdu : SendablePdu) {s : Session (Heard σ)}
    (hidle : s.txnMgr.Idle) :
    ∃ reply s', link peer.serve (.request unitId fc pdu) s = (delivered unitId fc reply, s') ∧
      s'.txnMgr.Idle ∧ s'.server.replies = s.server.replies ++ [reply] := by
  obtain ⟨txnId, nextId, hregister⟩ := hidle.register unitId fc
  have hidle' : TransactionManager.Idle { nextId, slots := Vector.replicate _ none } := rfl
  let answer := peer (requestFrame txnId unitId pdu) s.server.state
  refine ⟨answer.1, ⟨_, ⟨answer.2, s.server.replies ++ [answer.1]⟩,
    s.sent ++ [requestFrame txnId unitId pdu]⟩, ?_, hidle', rfl⟩
  rw [link]
  dsimp only
  rw [hregister]
  dsimp only [transmit, Peer.serve, requestFrame, MbapHeader.new, readFrame]
  rw [TransactionManager.completeResponse_registered]
  dsimp only
  rw [hidle'.remove]
  rfl

/-! ## Attempts -/

theorem delivered_eq (reply : SendablePdu) :
    delivered unitId fc reply = (do
      let response ← (OwnedResponsePdu.fromPdu reply.val).mapError .codec
      rejectIf (response.functionCodeByte ≠ fc.code ∧ response.functionCodeByte ≠ fc.code ||| 0x80)
        (.unexpectedResponse fc.code response.functionCodeByte)
      return response) := by
  rw [delivered, deliverResponse, rejectIf_neg (not_not_intro rfl)]
  rfl

/-- A delivered result ends the request, unless it is an exception that may be retried. -/
theorem classifyAttempt_delivered (retry : RetryConfig) (kind : RequestKind) (reply : SendablePdu) :
    classifyAttempt retry kind (delivered unitId fc reply)
        = .complete (delivered unitId fc reply) ∨
      ∃ exc, delivered unitId fc reply = .ok (.exception exc) ∧
        classifyAttempt retry kind (delivered unitId fc reply) = .retry (.exception exc) := by
  cases h : delivered unitId fc reply with
  | ok r =>
    cases r with
    | exception exc =>
      rw [classifyAttempt]
      split
      · exact .inl rfl
      · split
        · exact .inr ⟨exc, rfl, rfl⟩
        · exact .inl rfl
    | _ => exact .inl rfl
  | error e =>
    left
    -- the errors of a delivery are not timeouts
    rw [delivered_eq] at h
    obtain h | ⟨r, -, h⟩ := bind_eq_error.mp h
    · cases hparsed : OwnedResponsePdu.fromPdu reply.val with
      | ok r =>
        rw [hparsed] at h
        cases h
      | error e' =>
        rw [hparsed] at h
        cases h
        rfl
    · obtain h | ⟨_, -, h⟩ := bind_eq_error.mp h
      · obtain ⟨-, rfl⟩ := rejectIf_eq_error.mp h
        rfl
      · cases h

/-- The replies a request has had: exceptions, and a last one. -/
structure Attempted (unitId : UnitId) (fc : FunctionCode) (s s' : Session (Heard σ))
    (last : SendablePdu) : Prop where
  idle : s'.txnMgr.Idle
  replies : ∃ earlier, s'.server.replies = s.server.replies ++ earlier ++ [last] ∧
    ∀ reply ∈ earlier, ∃ exc, delivered unitId fc reply = .ok (.exception exc)

theorem Attempted.first {s s₁ : Session (Heard σ)} {reply : SendablePdu}
    (hidle : s₁.txnMgr.Idle) (hreplies : s₁.server.replies = s.server.replies ++ [reply]) :
    Attempted unitId fc s s₁ reply :=
  ⟨hidle, [], by rw [hreplies, List.append_nil], nofun⟩

theorem Attempted.after {s s₁ s' : Session (Heard σ)} {reply last : SendablePdu}
    (h : Attempted unitId fc s₁ s' last)
    (hreplies : s₁.server.replies = s.server.replies ++ [reply])
    (hexc : ∃ exc, delivered unitId fc reply = .ok (.exception exc)) :
    Attempted unitId fc s s' last := by
  obtain ⟨hidle, earlier, hearlier, hall⟩ := h
  refine ⟨hidle, reply :: earlier, ?_, List.forall_mem_cons.mpr ⟨hexc, hall⟩⟩
  rw [hearlier, hreplies]
  simp only [List.append_assoc, List.cons_append, List.nil_append]

/-- The request ends with what its last reply is delivered as, or with an error after an
exception. -/
theorem run_attemptLoop (peer : Peer σ) (retry : RetryConfig) (fc : FunctionCode)
    (pdu : SendablePdu) (kind : RequestKind) (attemptsMade : Nat) {s : Session (Heard σ)}
    (hidle : s.txnMgr.Idle) :
    ∃ result s' last,
      (attemptLoop retry unitId fc pdu kind attemptsMade).run (link peer.serve) s = (result, s') ∧
        Attempted unitId fc s s' last ∧
        (result = delivered unitId fc last ∨
          (∃ exc, delivered unitId fc last = .ok (.exception exc)) ∧ ∃ e, result = .error e) := by
  fun_induction attemptLoop retry unitId fc pdu kind attemptsMade generalizing s with
  | case1 attemptsMade ih =>
    obtain ⟨reply, s₁, hlink, hidle₁, hreplies⟩ := link_peer peer fc pdu hidle
    rw [Program.run, hlink]
    dsimp only
    obtain hclass | ⟨exc, hexc, hclass⟩ :=
      @classifyAttempt_delivered unitId fc retry kind reply
    · rw [hclass]
      exact ⟨_, s₁, reply, rfl, .first hidle₁ hreplies, .inl rfl⟩
    · rw [hclass]
      dsimp only
      split
      · exact ⟨_, s₁, reply, rfl, .first hidle₁ hreplies, .inr ⟨⟨exc, hexc⟩, _, rfl⟩⟩
      next hmore =>
        obtain ⟨result, s', last, hrun, hattempted, hresult⟩ := ih hmore hidle₁
        exact ⟨result, s', last, hrun, hattempted.after hreplies ⟨exc, hexc⟩, hresult⟩

/-! ## Exchanges -/

/-- A reply is delivered as a response of the function that was asked for exactly if it is that
response on the wire. -/
theorem delivered_eq_ok {reply : SendablePdu} {r : OwnedResponsePdu} (hne : fc.code ≠ 0)
    (hfc : r.functionCodeByte = fc.code) :
    delivered unitId fc reply = .ok r ↔ reply.val = r.wire ∧ r.Valid := by
  rw [← OwnedResponsePdu.fromPdu_eq_ok reply.property.2 (hfc ▸ hne), delivered_eq, bind_eq_ok]
  constructor
  · rintro ⟨r', hparsed, h⟩
    rw [check_bind_eq_ok, pure_eq_ok] at h
    obtain ⟨-, rfl⟩ := h
    cases hpdu : OwnedResponsePdu.fromPdu reply.val with
    | ok r =>
      rw [hpdu] at hparsed
      cases hparsed
      rfl
    | error e =>
      rw [hpdu] at hparsed
      cases hparsed
  · intro h
    refine ⟨r, by rw [h]; rfl, ?_⟩
    rw [rejectIf_neg fun hno => hno.1 hfc]
    rfl

theorem LooksAt.typedResponse_eq_ok {α β : Type}
    {check : OwnedResponsePdu → Option (Except ClientError α)} {kind : β → OwnedResponsePdu}
    {accept : β → Except ClientError α} (h : LooksAt check kind accept) {r : OwnedResponsePdu}
    {a : α} :
    Client.typedResponse check r = .ok a ↔ ∃ d, r = kind d ∧ accept d = .ok a := by
  constructor
  · intro hr
    by_cases hkind : ∃ d, r = kind d
    · obtain ⟨d, rfl⟩ := hkind
      exact ⟨d, rfl, (h.typedResponse d).symm.trans hr⟩
    · have hnone := h.miss r fun d hd => hkind ⟨d, hd⟩
      unfold Client.typedResponse at hr
      rw [hnone] at hr
      cases r <;> cases hr
  · rintro ⟨d, rfl, ha⟩
    exact (h.typedResponse d).trans ha

/-- The last reply decides what an exchange returns. -/
theorem run_exchange_peer {α β : Type} {check : OwnedResponsePdu → Option (Except ClientError α)}
    {kind : β → OwnedResponsePdu} {accept : β → Except ClientError α}
    (hlooks : LooksAt check kind accept) (hne : fc.code ≠ 0)
    (hkind : ∀ d, (kind d).functionCodeByte = fc.code) (peer : Peer σ) (retry : RetryConfig)
    (replay : RequestKind) {pdu : List UInt8} (hpos : 0 < pdu.length)
    (hlen : pdu.length ≤ maxPduSize) {s : Session (Heard σ)} (hidle : s.txnMgr.Idle) :
    ∃ result s' last,
      (exchange retry unitId fc pdu replay check).run.run (link peer.serve) s = (result, s') ∧
        Attempted unitId fc s s' last ∧
        ∀ a, result = .ok a ↔
          ∃ d, last.val = (kind d).wire ∧ (kind d).Valid ∧ accept d = .ok a := by
  have hpdu : checkedPduLength pdu = .ok ⟨pdu, hpos, hlen⟩ := by
    rw [checkedPduLength, dif_neg (Nat.pos_iff_ne_zero.mp hpos), dif_neg (Nat.not_lt.mpr hlen)]
  obtain ⟨result, s', last, hrun, hattempted, hresult⟩ :=
    @run_attemptLoop σ unitId peer retry fc ⟨pdu, hpos, hlen⟩ replay 0 s hidle
  refine ⟨result >>= typedResponse check, s', last, ?_, hattempted, fun a => ?_⟩
  · have hsend : (sendWithRetry retry unitId fc pdu replay).run.run (link peer.serve) s
        = (result, s') := by
      rw [sendWithRetry, Fallible.run_bind, orReturn, Fallible.run_ofExcept, hpdu]
      exact hrun
    rw [exchange, Fallible.run_bind, hsend]
    cases result <;> rfl
  · rw [bind_eq_ok]
    have hdelivered : ∀ d, delivered unitId fc last = .ok (kind d) ↔
        last.val = (kind d).wire ∧ (kind d).Valid :=
      fun d => delivered_eq_ok hne (hkind d)
    constructor
    · rintro ⟨r, hr, htyped⟩
      obtain ⟨d, rfl, ha⟩ := hlooks.typedResponse_eq_ok.mp htyped
      obtain rfl | ⟨-, e, rfl⟩ := hresult
      · exact ⟨d, ((hdelivered d).mp hr).1, ((hdelivered d).mp hr).2, ha⟩
      · cases hr
    · rintro ⟨d, hwire, hvalid, ha⟩
      have hd := (hdelivered d).mpr ⟨hwire, hvalid⟩
      obtain rfl | ⟨⟨exc, hexc⟩, -⟩ := hresult
      · exact ⟨kind d, hd, hlooks.typedResponse_eq_ok.mpr ⟨d, rfl, ha⟩⟩
      · rw [hexc] at hd
        exact absurd (Except.ok.inj hd).symm (hlooks.normal d exc)

/-! ## What the protocol prescribes -/

/-- A normal response to a bit read: the byte count and the bits, packed from the least significant
bit on, zeros behind the last. -/
def BitReply (code : UInt8) (quantity : UInt16) (v : Value) (pdu : List UInt8) : Prop :=
  ∃ values, v = .bits values ∧ values.length = quantity.toNat ∧
    pdu = code :: UInt8.ofNat ((quantity.toNat + 7) / 8) :: packBits values

/-- A normal response to a register read. -/
def RegisterReply (code : UInt8) (quantity : UInt16) (v : Value) (pdu : List UInt8) : Prop :=
  ∃ values, v = .registers values ∧ values.length = quantity.toNat ∧
    pdu = code :: UInt8.ofNat (2 * quantity.toNat) :: values.flatMap toBeBytes

/-- The response the protocol has for the request of a call if the call returns `v`. -/
def Prescribes (v : Value) (pdu : List UInt8) : ClientCall → Prop
  | .readCoils _ quantity => BitReply 0x01 quantity v pdu
  | .readDiscreteInputs _ quantity => BitReply 0x02 quantity v pdu
  | .readHoldingRegisters _ quantity => RegisterReply 0x03 quantity v pdu
  | .readInputRegisters _ quantity => RegisterReply 0x04 quantity v pdu
  | .writeSingleCoil address value => v = .done ∧
    pdu = 0x05 :: (toBeBytes address ++ toBeBytes (if value then 0xFF00 else 0x0000))
  | .writeSingleRegister address value => v = .done ∧
    pdu = 0x06 :: (toBeBytes address ++ toBeBytes value)
  | .writeMultipleCoils address values => v = .done ∧
    pdu = 0x0F :: (toBeBytes address ++ toBeBytes (UInt16.ofNat values.length))
  | .writeMultipleRegisters address values => v = .done ∧
    pdu = 0x10 :: (toBeBytes address ++ toBeBytes (UInt16.ofNat values.length))
  | .maskWriteRegister address andMask orMask => v = .done ∧
    pdu = 0x16 :: (toBeBytes address ++ toBeBytes andMask ++ toBeBytes orMask)
  | .readWriteMultipleRegisters _ readQuantity _ _ => RegisterReply 0x17 readQuantity v pdu

/-- The reply is a response that is accepted, and the call returns `v` for it. -/
def Accepts {α β : Type} (kind : β → OwnedResponsePdu) (accept : β → Except ClientError α)
    (toValue : α → Value) (v : Value) (pdu : List UInt8) : Prop :=
  ∃ a, (∃ d, pdu = (kind d).wire ∧ (kind d).Valid ∧ accept d = .ok a) ∧ toValue a = v

theorem accepts_bits {kind : CountedData → OwnedResponsePdu} {code : UInt8}
    (hwire : ∀ d, (kind d).wire = code :: d.byteCount :: d.data)
    (hvalid : ∀ d, (kind d).Valid ↔ d.data.length = d.byteCount.toNat) {q : UInt16}
    (hq : InRange q 2000) {v : Value} {pdu : List UInt8} :
    Accepts kind (bitValues fc q) .bits v pdu ↔ BitReply code q v pdu := by
  have hle : q.toNat ≤ 2000 := hq.bounds.2
  have hcount : (UInt8.ofNat ((q.toNat + 7) / 8)).toNat = (q.toNat + 7) / 8 :=
    UInt8.toNat_ofNat_of_lt' (show _ < 256 by omega)
  constructor
  · rintro ⟨values, ⟨d, rfl, hd, haccept⟩, rfl⟩
    obtain ⟨hlen, hdata⟩ := bitValues_eq_ok.mp haccept
    refine ⟨values, rfl, hlen, ?_⟩
    have hbytes := (hvalid d).mp hd
    rw [hdata, length_packBits, hlen] at hbytes
    rw [hwire, hdata, hbytes, UInt8.ofNat_toNat]
  · rintro ⟨values, rfl, hlen, rfl⟩
    have hd := hwire ⟨UInt8.ofNat ((q.toNat + 7) / 8), packBits values⟩
    refine ⟨values, ⟨_, hd.symm, (hvalid _).mpr ?_, bitValues_eq_ok.mpr ⟨hlen, rfl⟩⟩, rfl⟩
    dsimp only
    rw [length_packBits, hlen, hcount]

theorem accepts_registers {kind : CountedData → OwnedResponsePdu} {code : UInt8}
    (hwire : ∀ d, (kind d).wire = code :: d.byteCount :: d.data)
    (hvalid : ∀ d, (kind d).Valid ↔ d.data.length = d.byteCount.toNat ∧ d.data.length % 2 = 0)
    {q : UInt16} (hq : InRange q 125) {v : Value} {pdu : List UInt8} :
    Accepts kind (registerValues fc q) .registers v pdu ↔ RegisterReply code q v pdu := by
  have hle : q.toNat ≤ 125 := hq.bounds.2
  have hcount : (UInt8.ofNat (2 * q.toNat)).toNat = 2 * q.toNat :=
    UInt8.toNat_ofNat_of_lt' (show _ < 256 by omega)
  constructor
  · rintro ⟨values, ⟨d, rfl, hd, haccept⟩, rfl⟩
    obtain ⟨hlen, hdata⟩ := registerValues_eq_ok.mp haccept
    refine ⟨values, rfl, hlen, ?_⟩
    have hbytes := ((hvalid d).mp hd).1
    rw [hdata, length_flatMap_toBeBytes, hlen, Nat.mul_comm] at hbytes
    rw [hwire, hdata, hbytes, UInt8.ofNat_toNat]
  · rintro ⟨values, rfl, hlen, rfl⟩
    have hd := hwire ⟨UInt8.ofNat (2 * q.toNat), values.flatMap toBeBytes⟩
    refine ⟨values, ⟨_, hd.symm, (hvalid _).mpr ?_, registerValues_eq_ok.mpr ⟨hlen, rfl⟩⟩, rfl⟩
    dsimp only
    rw [length_flatMap_toBeBytes, hlen, hcount]
    omega

/-! ## Calls -/

/-- A call ends, and what it returns is what the last reply says. -/
def Decided (peer : Peer σ) (retry : RetryConfig) (unitId : UnitId) (c : ClientCall)
    (s : Session (Heard σ)) : Prop :=
  ∃ result s' last, (c.method retry unitId).run.run (link peer.serve) s = (result, s') ∧
    Attempted unitId c.functionCode s s' last ∧ ∀ v, result = .ok v ↔ Prescribes v last.val c

theorem functionCode_ne_custom (c : ClientCall) (b : UInt8) : c.functionCode ≠ .custom b := by
  cases c <;> nofun

theorem IsExchange.decided {c : ClientCall} {request : RequestPdu} {α β : Type}
    {kind : β → OwnedResponsePdu} {accept : β → Except ClientError α} {toValue : α → Value}
    (h : IsExchange retry unitId c request kind accept toValue)
    (hkind : ∀ d, (kind d).functionCodeByte = c.functionCode.code)
    (hspec : ∀ v pdu, Accepts kind accept toValue v pdu ↔ Prescribes v pdu c)
    {s : Session (Heard σ)} (hidle : s.txnMgr.Idle) : Decided peer retry unitId c s := by
  obtain ⟨replay, check, hlooks, hm⟩ := h.method_eq
  have hpos : 0 < request.wire.length := Nat.succ_pos _
  have hne : c.functionCode.code ≠ 0 :=
    (FunctionCode.fromRaw_eq_some.mp (FunctionCode.fromRaw_code (functionCode_ne_custom c))).1
  obtain ⟨result, s', last, hrun, hattempted, hresult⟩ :=
    @run_exchange_peer σ unitId _ α β _ _ _ hlooks hne hkind peer retry replay _ hpos
      h.length_le s hidle
  refine ⟨result.map toValue, s', last, ?_, hattempted, fun v => ?_⟩
  · rw [hm, Fallible.run_bind, ← h.functionCode, hrun]
    cases result <;> rfl
  · rw [map_eq_ok, ← hspec]
    exact exists_congr fun a => and_congr_left' (hresult a)

theorem CoilValue.toWire_inj {v w : CoilValue} (h : v.toWire = w.toWire) : v = w := by
  have hv := CoilValue.fromWire_eq_some.mpr h
  rw [CoilValue.fromWire_eq_some.mpr rfl] at hv
  exact Option.some.inj hv

/-- A write is confirmed by one response, its echo. -/
theorem IsExchange.decided_echo {c : ClientCall} {request : RequestPdu} {β : Type}
    {kind : β → OwnedResponsePdu} {accept : β → Except ClientError Unit}
    (h : IsExchange retry unitId c request kind accept fun _ => .done)
    (hkind : ∀ d, (kind d).functionCodeByte = c.functionCode.code) (echo : β)
    (hvalid : (kind echo).Valid)
    (haccept : ∀ d u, accept d = .ok u ↔ d = echo)
    (hspec : ∀ v pdu, Prescribes v pdu c ↔ v = .done ∧ pdu = (kind echo).wire)
    {s : Session (Heard σ)} (hidle : s.txnMgr.Idle) : Decided peer retry unitId c s := by
  refine h.decided hkind (fun v pdu => ?_) hidle
  rw [hspec]
  constructor
  · rintro ⟨u, ⟨d, rfl, -, hd⟩, rfl⟩
    rw [(haccept d u).mp hd]
    exact ⟨rfl, rfl⟩
  · rintro ⟨rfl, rfl⟩
    exact ⟨(), ⟨echo, rfl, hvalid, (haccept echo ()).mpr rfl⟩, rfl⟩

/-- The multiple writes are confirmed with the address and the number of values. -/
theorem echo_range {a q : UInt16} (d : AddressRange) (u : Unit) :
    (do
      expectEcho "address" a d.address
      expectEcho "quantity" q d.quantity) = .ok u ↔ d = ⟨a, q⟩ := by
  rw [check_bind_eq_ok, expectEcho_eq_ok, expectEcho_eq_ok]
  constructor
  · rintro ⟨rfl, rfl⟩
    rfl
  · rintro rfl
    exact ⟨rfl, rfl⟩

section

variable (hunit : unitId ≠ 0) {s : Session (Heard σ)} (hidle : s.txnMgr.Idle)
include hunit hidle

theorem decided_writeSingleCoil (a : UInt16) (v : Bool) :
    Decided peer retry unitId (.writeSingleCoil a v) s := by
  refine (isExchange_writeSingleCoil hunit a v).decided_echo (fun _ => rfl)
    ⟨a, CoilValue.fromBool v⟩ trivial (fun d u => ?_) (fun w pdu => ?_) hidle
  · rw [check_bind_eq_ok, expectEcho_eq_ok, expectEcho_eq_ok]
    constructor
    · rintro ⟨rfl, hvalue⟩
      rw [CoilValue.toWire_inj hvalue]
    · rintro rfl
      exact ⟨rfl, rfl⟩
  · cases v <;> exact Iff.rfl

theorem decided_writeSingleRegister (a v : UInt16) :
    Decided peer retry unitId (.writeSingleRegister a v) s := by
  refine (isExchange_writeSingleRegister hunit a v).decided_echo (fun _ => rfl)
    ⟨a, v⟩ trivial (fun d u => ?_) (fun w pdu => Iff.rfl) hidle
  rw [check_bind_eq_ok, expectEcho_eq_ok, expectEcho_eq_ok]
  constructor
  · rintro ⟨rfl, rfl⟩
    rfl
  · rintro rfl
    exact ⟨rfl, rfl⟩

theorem decided_maskWriteRegister (a andMask orMask : UInt16) :
    Decided peer retry unitId (.maskWriteRegister a andMask orMask) s := by
  refine (isExchange_maskWriteRegister hunit a andMask orMask).decided_echo (fun _ => rfl)
    ⟨a, andMask, orMask⟩ trivial (fun d u => ?_) (fun w pdu => Iff.rfl) hidle
  rw [check_bind_eq_ok, check_bind_eq_ok, expectEcho_eq_ok, expectEcho_eq_ok, expectEcho_eq_ok]
  constructor
  · rintro ⟨rfl, rfl, rfl⟩
    rfl
  · rintro rfl
    exact ⟨rfl, rfl, rfl⟩

theorem decided_writeMultipleCoils (a : UInt16) {values : List Bool}
    (hlimit : limitError values.length 1968 = none) :
    Decided peer retry unitId (.writeMultipleCoils a values) s := by
  obtain ⟨q, n, hq, -, -, -, -, hexchange⟩ := isExchange_writeMultipleCoils hunit a hlimit
  refine hexchange.decided_echo (fun _ => rfl) ⟨a, q⟩ trivial echo_range
    (fun w pdu => ?_) hidle
  rw [Prescribes, ← hq, UInt16.ofNat_toNat]
  exact Iff.rfl

theorem decided_writeMultipleRegisters (a : UInt16) {values : List UInt16}
    (hlimit : limitError values.length 123 = none) :
    Decided peer retry unitId (.writeMultipleRegisters a values) s := by
  obtain ⟨q, n, hq, -, -, hexchange⟩ := isExchange_writeMultipleRegisters hunit a hlimit
  refine hexchange.decided_echo (fun _ => rfl) ⟨a, q⟩ trivial echo_range
    (fun w pdu => ?_) hidle
  rw [Prescribes, ← hq, UInt16.ofNat_toNat]
  exact Iff.rfl

theorem decided_readWriteMultipleRegisters (ra wa : UInt16) {rq : UInt16} {values : List UInt16}
    (hread : limitError rq.toNat 125 = none) (hlimit : limitError values.length 121 = none) :
    Decided peer retry unitId (.readWriteMultipleRegisters ra rq wa values) s := by
  have hrange : InRange rq maxRwRead := inRange_of_limitError hread
  obtain ⟨q, n, -, -, -, hexchange⟩ :=
    isExchange_readWriteMultipleRegisters hunit ra wa hrange hlimit
  exact hexchange.decided (fun _ => rfl)
    (fun w pdu => accepts_registers (fun _ => rfl) (fun _ => Iff.rfl) hrange) hidle

/-- Every call within its limits is decided by the last reply. -/
theorem decided_of_encodeError (c : ClientCall) (he : c.encodeError = none) :
    Decided peer retry unitId c s := by
  cases c with
  | readCoils a q =>
    have hq : InRange q 2000 := inRange_of_limitError he
    exact (isExchange_readCoils hunit hq).decided (fun _ => rfl)
      (fun _ _ => accepts_bits (fun _ => rfl) (fun _ => Iff.rfl) hq) hidle
  | readDiscreteInputs a q =>
    have hq : InRange q 2000 := inRange_of_limitError he
    exact (isExchange_readDiscreteInputs hunit hq).decided (fun _ => rfl)
      (fun _ _ => accepts_bits (fun _ => rfl) (fun _ => Iff.rfl) hq) hidle
  | readHoldingRegisters a q =>
    have hq : InRange q 125 := inRange_of_limitError he
    exact (isExchange_readHoldingRegisters hunit hq).decided (fun _ => rfl)
      (fun _ _ => accepts_registers (fun _ => rfl) (fun _ => Iff.rfl) hq) hidle
  | readInputRegisters a q =>
    have hq : InRange q 125 := inRange_of_limitError he
    exact (isExchange_readInputRegisters hunit hq).decided (fun _ => rfl)
      (fun _ _ => accepts_registers (fun _ => rfl) (fun _ => Iff.rfl) hq) hidle
  | writeSingleCoil a v => exact decided_writeSingleCoil hunit hidle a v
  | writeSingleRegister a v => exact decided_writeSingleRegister hunit hidle a v
  | maskWriteRegister a andMask orMask =>
    exact decided_maskWriteRegister hunit hidle a andMask orMask
  | writeMultipleCoils a values => exact decided_writeMultipleCoils hunit hidle a he
  | writeMultipleRegisters a values => exact decided_writeMultipleRegisters hunit hidle a he
  | readWriteMultipleRegisters ra rq wa values =>
    obtain ⟨hwrite, hread⟩ := Option.or_eq_none_iff.mp he
    exact decided_readWriteMultipleRegisters hunit hidle ra wa hread hwrite

end

/-! ## The theorem -/

/-- What a call makes of the replies of a peer. -/
structure Exact (peer : Peer σ) (retry : RetryConfig) (unitId : UnitId) (c : ClientCall)
    (s : Session (Heard σ)) : Prop where
  /-- A value is returned exactly if the last reply is the response with this value. -/
  decided : Decided peer retry unitId c s
  /-- No reply is parsed out of bounds … -/
  parsed : ∀ pdu, InBounds (Checked.OwnedResponsePdu.fromPdu pdu) (OwnedResponsePdu.fromPdu pdu)
  /-- … and neither bits nor registers are taken from where there are none. -/
  bits : ∀ fc q r, InBounds (Checked.bitValues fc q r) (bitValues fc q r)
  registers : ∀ fc q r, InBounds (Checked.registerValues fc q r) (registerValues fc q r)

/-- Whatever the other end sends, a call within its limits returns what the protocol says the bytes
mean, and nothing for bytes that are not the response to it. -/
theorem calls_exact (peer : Peer σ) (retry : RetryConfig) {unitId : UnitId} (hunit : unitId ≠ 0)
    (c : ClientCall) (hlimits : c.encodeError = none) {s : Session (Heard σ)}
    (hidle : s.txnMgr.Idle) : Exact peer retry unitId c s :=
  ⟨decided_of_encodeError hunit hidle c hlimits, Checked.inBounds_fromPdu,
    Checked.inBounds_bitValues, Checked.inBounds_registerValues⟩

/-- A peer that answers everything with three coils, the first and the last of them on. -/
def threeCoils : Peer Unit := fun _ s => (⟨[0x01, 0x01, 0x05], by decide, by decide⟩, s)

theorem calls_exact_threeCoils :
    Exact threeCoils { maxRetries := 3, retryableExceptions := [] } 1 (.readCoils 0 3)
      (.quiet 1 { state := (), replies := [] }) :=
  calls_exact threeCoils { maxRetries := 3, retryableExceptions := [] } (by decide)
    (.readCoils 0 3) rfl rfl

end RustyModbus.EndToEnd
