import RustyModbus.Gateway.Routing
import RustyModbus.Lib.Interaction

/-!
# The gateway between TCP and RTU

A connection of the gateway takes one frame after the other from its TCP client. A frame
for a unit is put into an RTU frame, sent to the backend the unit is behind, and what
comes back is put into an MBAP frame again, if it answers the request; in all other cases
the client gets an exception. A broadcast goes to every backend, each time from a task of
its own, and is not answered.

The backends and the client are an arbitrary component: it decides whether a connection
can be made, whether a frame can be sent, and what is received. That a received frame is
one the RTU decoder can yield is part of the interface (`BackendFrame`).
-/

namespace RustyModbus.Gateway

open Wire Interaction

/-! ## Translation -/

def mbapToRtu (frame : Frame) : Frame :=
  { header := .rtu frame.unitId, pdu := frame.pdu }

def gatewayPathUnavailable : UInt8 := ExceptionCode.gatewayPathUnavailable.code
def gatewayTargetDeviceFailedToRespond : UInt8 :=
  ExceptionCode.gatewayTargetDeviceFailedToRespond.code

def makeExceptionFrame (transactionId : UInt16) (unitId functionCode exceptionCode : UInt8) :
    Frame :=
  { header := .mbap (MbapHeader.new transactionId unitId 2 (by decide))
    pdu := [functionCode ||| 0x80, exceptionCode] }

def rtuToMbap (rtuFrame : Frame) (transactionId : UInt16) (unitId : UInt8) : Frame :=
  if h : rtuFrame.pdu = [] ∨ rtuFrame.pdu.length > maxPduSize then
    makeExceptionFrame transactionId unitId (rtuFrame.pdu.headD 0)
      gatewayTargetDeviceFailedToRespond
  else
    -- a length up to `maxPduSize` is a `u16`, so the conversion of the source cannot fail
    have hlen : rtuFrame.pdu.length ≤ maxPduSize := Nat.not_lt.mp fun hlt => h (.inr hlt)
    { header := .mbap (MbapHeader.new transactionId unitId rtuFrame.pdu.length hlen)
      pdu := rtuFrame.pdu }

/-! ## The interface to backends and client -/

/-- A frame that the decoder of a backend connection can yield. -/
abbrev BackendFrame (policy : FramingPolicy) :=
  { f : Frame // ∃ src rest,
    (FrameCodec.configuredRtuOverTcp policy .response).decode src = (.ok (some f), rest) }

/-- What waiting for the response of a backend ends with. -/
inductive Reception (policy : FramingPolicy)
  | received (frame : BackendFrame policy)
  | framingError (e : FrameError)
  | disconnected
  | timedOut

inductive GatewayCall (Addr : Type)
  | connect (addr : Addr) (policy : FramingPolicy)
  | send (rtuFrame : Frame)
  | recv (policy : FramingPolicy)
  | reply (frame : Frame)
  | spawn (addr : Addr) (rtuFrame : Frame)

/-- Of a call that can fail only the success is looked at. -/
@[reducible] def GatewayCall.Reply {Addr : Type} : GatewayCall Addr → Type
  | connect _ _ => Bool
  | send _ => Bool
  | recv policy => Reception policy
  | reply _ => Bool
  | spawn _ _ => Unit

abbrev gatewayInterface (Addr : Type) : Interface where
  Call := GatewayCall Addr
  Reply := GatewayCall.Reply

abbrev GatewayProgram (Addr : Type) := Program (gatewayInterface Addr)

section Programs

variable {Addr : Type}

def perform (c : GatewayCall Addr) : GatewayProgram Addr c.Reply :=
  Program.perform (I := gatewayInterface Addr) c

theorem run_perform {σ : Type} (serve : Component (gatewayInterface Addr) σ)
    (c : GatewayCall Addr) (s : σ) : (perform c).run serve s = serve c s := rfl

theorem trace_perform {σ : Type} (serve : Component (gatewayInterface Addr) σ)
    (c : GatewayCall Addr) (s : σ) : (perform c).trace serve s = [⟨c, (serve c s).1⟩] := rfl

/-! ## The programs -/

def forwardToBackend (backendAddr : Addr) (framingPolicy : FramingPolicy) (rtuFrame : Frame)
    (txnId : UInt16) (unitId fc : UInt8) : GatewayProgram Addr Frame := do
  if !(← perform (.connect backendAddr framingPolicy)) then
    return makeExceptionFrame txnId unitId fc gatewayPathUnavailable
  if !(← perform (.send rtuFrame)) then
    return makeExceptionFrame txnId unitId fc gatewayPathUnavailable
  match ← perform (.recv framingPolicy) with
  | .received rtuResponse =>
    let respUnit := rtuResponse.val.unitId
    let respFc := rtuResponse.val.pdu.headD 0
    if respUnit ≠ unitId ∨ respFc &&& 0x7F ≠ fc then
      return makeExceptionFrame txnId unitId fc gatewayTargetDeviceFailedToRespond
    return rtuToMbap rtuResponse.val txnId unitId
  | _ => return makeExceptionFrame txnId unitId fc gatewayTargetDeviceFailedToRespond

/-- The task that takes a broadcast to one backend. -/
def broadcastTask (backend : Addr) (rtuFrame : Frame) : GatewayProgram Addr Unit := do
  if ← perform (.connect backend .crcScanCompatibility) then
    let _ ← perform (.send rtuFrame)
  return ()

def spawnAll (rtuFrame : Frame) : List Addr → GatewayProgram Addr Unit
  | [] => return ()
  | backend :: backends => do
    perform (.spawn backend rtuFrame)
    spawnAll rtuFrame backends

def transactionIdOf (frame : Frame) : UInt16 :=
  match frame.header with
  | .mbap h => h.transactionId
  | .rtu _ => 0

/-- The body of the loop: whether it goes on. -/
def handleFrame [DecidableEq Addr] (routeTable : RouteTable Addr) (frame : Frame) :
    GatewayProgram Addr Bool := do
  let unitId := frame.unitId
  let txnId := transactionIdOf frame
  if unitId = 0 then
    spawnAll (mbapToRtu frame) routeTable.allBackends
    return true
  match routeTable.resolveRoute unitId with
  | none =>
    perform (.reply (makeExceptionFrame txnId unitId (frame.pdu.headD 0) gatewayPathUnavailable))
  | some route =>
    let respFrame ← forwardToBackend route.backendAddr route.rtuOverTcpFramingPolicy
      (mbapToRtu frame) txnId unitId (frame.pdu.headD 0)
    perform (.reply respFrame)

def handleTcpConnection [DecidableEq Addr] (routeTable : RouteTable Addr) :
    List Frame → GatewayProgram Addr Unit
  | [] => return ()
  | frame :: frames => do
    if ← handleFrame routeTable frame then handleTcpConnection routeTable frames else return ()

end Programs

/-! ## What an execution shows -/

section Traces

variable {Addr : Type}

/-- A call and its outcome. -/
abbrev Event (Addr : Type) := Sigma (gatewayInterface Addr).Reply

/-- The frames handed to the TCP side. -/
def repliesOf (trace : List (Event Addr)) : List Frame :=
  trace.filterMap fun | ⟨.reply frame, _⟩ => some frame | _ => none

/-- The frames handed to the connection of a backend. -/
def forwardedOf (trace : List (Event Addr)) : List Frame :=
  trace.filterMap fun | ⟨.send rtuFrame, _⟩ => some rtuFrame | _ => none

/-- The broadcasts that tasks have been started for. -/
def spawnedOf (trace : List (Event Addr)) : List (Addr × Frame) :=
  trace.filterMap fun | ⟨.spawn addr rtuFrame, _⟩ => some (addr, rtuFrame) | _ => none

/-- The frames received from the backend. -/
def receivedOf (trace : List (Event Addr)) : List Frame :=
  trace.filterMap fun | ⟨.recv _, .received frame⟩ => some frame.val | _ => none

/-- The backend could not be connected to, or not be sent to. -/
def unreachable (trace : List (Event Addr)) : Bool :=
  trace.any fun | ⟨.connect _ _, ok⟩ => !ok | ⟨.send _, ok⟩ => !ok | _ => false

section Append

variable (t t' : List (Event Addr))

theorem repliesOf_append : repliesOf (t ++ t') = repliesOf t ++ repliesOf t' :=
  List.filterMap_append

theorem forwardedOf_append : forwardedOf (t ++ t') = forwardedOf t ++ forwardedOf t' :=
  List.filterMap_append

theorem spawnedOf_append : spawnedOf (t ++ t') = spawnedOf t ++ spawnedOf t' :=
  List.filterMap_append

theorem receivedOf_append : receivedOf (t ++ t') = receivedOf t ++ receivedOf t' :=
  List.filterMap_append

theorem unreachable_append : unreachable (t ++ t') = (unreachable t || unreachable t') :=
  List.any_append

end Append

/-- The received frame answers the request: it comes from the unit and has the function
code, or the exception of it. -/
def AnswersTo (frame response : Frame) : Prop :=
  response.unitId = frame.unitId ∧ response.pdu.headD 0 &&& 0x7F = frame.pdu.headD 0

instance (frame response : Frame) : Decidable (AnswersTo frame response) :=
  inferInstanceAs (Decidable (_ ∧ _))

/-- What the client is to be told, given what was seen of the backend. -/
def replyPdu (frame : Frame) (routed : Bool) (trace : List (Event Addr)) : List UInt8 :=
  if !routed || unreachable trace then [frame.pdu.headD 0 ||| 0x80, 0x0A]
  else
    match (receivedOf trace).head? with
    | some response =>
      if AnswersTo frame response then response.pdu else [frame.pdu.headD 0 ||| 0x80, 0x0B]
    | none => [frame.pdu.headD 0 ||| 0x80, 0x0B]

/-- A request for one unit has been bridged: there is one reply, it belongs to the request
and can be sent, and it is the answer of the backend or the right exception. -/
structure Bridged (routeTable : RouteTable Addr) (frame : Frame) (trace : List (Event Addr))
    (reply : Frame) : Prop where
  replies : repliesOf trace = [reply]
  identity : ∃ h, reply.header = .mbap h ∧ h.transactionId = transactionIdOf frame ∧
    h.unitId = frame.unitId
  encodable : ∀ dst, MbapCodec.encode reply dst = (.ok (), dst ++ reply.mbapWire)
  functionCode : ∃ fc, reply.pdu.head? = some fc ∧
    (fc = frame.pdu.headD 0 ∨ fc = frame.pdu.headD 0 ||| 0x80)
  pdu : reply.pdu = replyPdu frame (routeTable.resolveRoute frame.unitId).isSome trace
  forwarded : ∀ rtuFrame ∈ forwardedOf trace,
    rtuFrame = { header := .rtu frame.unitId, pdu := frame.pdu } ∧
    ∀ dst, encodeFrame rtuFrame dst = (.ok (), dst ++ rtuFrame.adu)
  spawned : spawnedOf trace = []

end Traces

section Unicast

variable {Addr σ : Type} (serve : Component (gatewayInterface Addr) σ) (s : σ)

/-- The reply that carries `pdu` and belongs to the request. -/
def ReplyOf (frame : Frame) (pdu : List UInt8) (reply : Frame) : Prop :=
  ∃ hlen, reply = { header := .mbap (MbapHeader.new (transactionIdOf frame) frame.unitId
    pdu.length hlen), pdu }

theorem replyOf_makeExceptionFrame (frame : Frame) (code : UInt8) :
    ReplyOf frame [frame.pdu.headD 0 ||| 0x80, code]
      (makeExceptionFrame (transactionIdOf frame) frame.unitId (frame.pdu.headD 0) code) :=
  ⟨show 2 ≤ 253 by decide, rfl⟩

theorem replyOf_rtuToMbap (frame : Frame) {response : Frame} (h : response.RtuSendable) :
    ReplyOf frame response.pdu (rtuToMbap response (transactionIdOf frame) frame.unitId) := by
  obtain ⟨_, -, hpos, hle⟩ := h
  refine ⟨hle, dif_neg ?_⟩
  rintro (hnil | hlong)
  · rw [hnil] at hpos
    cases hpos
  · exact absurd hle (Nat.not_le.mpr hlong)

/-- The part of an execution before the reply: at most the RTU frame of the request is
forwarded, and the reply is the one for what has been seen. -/
structure Forwarded (frame : Frame) (routed : Bool) (trace : List (Event Addr)) (reply : Frame) :
    Prop where
  reply : ReplyOf frame (replyPdu frame routed trace) reply
  forwarded : ∀ f ∈ forwardedOf trace, f = mbapToRtu frame
  replies : repliesOf trace = []
  spawned : spawnedOf trace = []

theorem forwarded_forwardToBackend (frame : Frame) (addr : Addr) (policy : FramingPolicy) :
    Forwarded frame true
      ((forwardToBackend addr policy (mbapToRtu frame) (transactionIdOf frame) frame.unitId
        (frame.pdu.headD 0)).trace serve s)
      ((forwardToBackend addr policy (mbapToRtu frame) (transactionIdOf frame) frame.unitId
        (frame.pdu.headD 0)).run serve s).1 := by
  have hexception := replyOf_makeExceptionFrame frame
  have hone : ∀ f ∈ [mbapToRtu frame], f = mbapToRtu frame := fun f hf => List.mem_singleton.mp hf
  have hnone : ∀ f ∈ ([] : List Frame), f = mbapToRtu frame :=
    fun f hf => absurd hf List.not_mem_nil
  rw [forwardToBackend, Program.trace_bind, Program.run_bind, trace_perform, run_perform]
  cases serve (.connect addr policy) s with
  | mk connected s =>
  cases connected with
  | false => exact ⟨hexception _, hnone, rfl, rfl⟩
  | true =>
  dsimp only
  rw [Bool.not_true, if_neg Bool.false_ne_true, Program.trace_bind, Program.run_bind, trace_perform,
    run_perform]
  cases serve (.send (mbapToRtu frame)) s with
  | mk sent s =>
  cases sent with
  | false => exact ⟨hexception _, hone, rfl, rfl⟩
  | true =>
  dsimp only
  rw [Bool.not_true, if_neg Bool.false_ne_true, Program.trace_bind, Program.run_bind, trace_perform,
    run_perform]
  cases serve (.recv policy) s with
  | mk reception s =>
  cases reception with
  | received response =>
    dsimp only
    by_cases hanswers : AnswersTo frame response.val
    · obtain ⟨src, rest, hdecode⟩ := response.property
      rw [if_neg (by rw [not_or, Decidable.not_not, Decidable.not_not]; exact hanswers)]
      refine ⟨?_, hone, rfl, rfl⟩
      show ReplyOf frame (if AnswersTo frame response.val then _ else _) _
      rw [if_pos hanswers]
      exact replyOf_rtuToMbap frame (Frame.RtuSendable.of_decode hdecode)
    · rw [if_pos (Decidable.not_and_iff_or_not.mp hanswers)]
      refine ⟨?_, hone, rfl, rfl⟩
      show ReplyOf frame (if AnswersTo frame response.val then _ else _) _
      rw [if_neg hanswers]
      exact hexception _
  | _ => exact ⟨hexception _, hone, rfl, rfl⟩

theorem byte_of_masked (b : UInt8) : b = b &&& 0x7F ∨ b = (b &&& 0x7F) ||| 0x80 := by
  exact forall_byte (P := fun b => b = b &&& 0x7F ∨ b = (b &&& 0x7F) ||| 0x80) (by decide +kernel) b

theorem rtuSendable_of_received {trace : List (Event Addr)} {f : Frame}
    (h : f ∈ receivedOf trace) : f.RtuSendable := by
  obtain ⟨⟨c, outcome⟩, -, hevent⟩ := List.mem_filterMap.mp h
  cases c with
  | recv policy =>
    cases outcome with
    | received response =>
      cases hevent
      obtain ⟨src, rest, hdecode⟩ := response.property
      exact Frame.RtuSendable.of_decode hdecode
    | _ => cases hevent
  | _ => cases hevent

/-- The first byte of the reply is the function code of the request, or its exception. -/
theorem head?_replyPdu (frame : Frame) (routed : Bool) (trace : List (Event Addr)) :
    ∃ fc, (replyPdu frame routed trace).head? = some fc ∧
      (fc = frame.pdu.headD 0 ∨ fc = frame.pdu.headD 0 ||| 0x80) := by
  rw [replyPdu]
  split
  · exact ⟨_, rfl, .inr rfl⟩
  · split
    next response hresponse =>
      split
      next hanswers =>
        obtain ⟨_, -, hpos, -⟩ := rtuSendable_of_received (List.mem_of_head? hresponse)
        obtain ⟨_, hfc⟩ := hanswers
        cases hpdu : response.pdu with
        | nil => simp [hpdu] at hpos
        | cons b data =>
          rw [hpdu] at hfc
          rw [← hfc]
          exact ⟨b, rfl, byte_of_masked b⟩
      next => exact ⟨_, rfl, .inr rfl⟩
    next => exact ⟨_, rfl, .inr rfl⟩

/-- Handing over the reply ends the work on a request. -/
theorem Forwarded.bridged {routeTable : RouteTable Addr} {frame : Frame}
    (hframe : frame.MbapSendable) {trace : List (Event Addr)} {reply : Frame}
    (h : Forwarded frame (routeTable.resolveRoute frame.unitId).isSome trace reply) (ok : Bool) :
    Bridged routeTable frame (trace ++ [⟨.reply reply, ok⟩]) reply := by
  obtain ⟨_, -, -, hpos, hle, -⟩ := hframe
  obtain ⟨hlen, hreply⟩ := h.reply
  have hcarries : reply.pdu = replyPdu frame (routeTable.resolveRoute frame.unitId).isSome trace :=
    congrArg Frame.pdu hreply
  obtain ⟨fc, hhead, hfc⟩ := head?_replyPdu frame (routeTable.resolveRoute frame.unitId).isSome trace
  have hsendable : reply.MbapSendable := by
    have hne : 1 ≤ (replyPdu frame (routeTable.resolveRoute frame.unitId).isSome trace).length :=
      List.length_pos_of_mem (List.mem_of_head? hhead)
    refine ⟨_, congrArg Frame.header hreply, rfl, hcarries ▸ hne, hcarries ▸ hlen, ?_⟩
    rw [hcarries]
    exact UInt16.toNat_ofNat_of_lt' (Nat.lt_of_le_of_lt (Nat.succ_le_succ hlen) (by decide))
  refine ⟨?_, ?_, hsendable.encode_eq, ⟨fc, hcarries ▸ hhead, hfc⟩, ?_, fun f hf => ?_, ?_⟩
  · rw [repliesOf_append, h.replies]
    rfl
  · rw [hreply]
    exact ⟨_, rfl, rfl, rfl⟩
  · -- the reply itself says nothing about the backend
    rw [hcarries, replyPdu, replyPdu, receivedOf_append, unreachable_append,
      show receivedOf [(⟨.reply reply, ok⟩ : Event Addr)] = [] from rfl, List.append_nil,
      show unreachable [(⟨.reply reply, ok⟩ : Event Addr)] = false from rfl, Bool.or_false]
  · rw [forwardedOf_append, show forwardedOf [(⟨.reply reply, ok⟩ : Event Addr)] = [] from rfl,
      List.append_nil] at hf
    obtain rfl := h.forwarded f hf
    exact ⟨rfl, encodeFrame_eq hpos hle⟩
  · rw [spawnedOf_append, h.spawned]
    rfl

theorem bridged_handleFrame [DecidableEq Addr] (routeTable : RouteTable Addr) {frame : Frame}
    (hframe : frame.MbapSendable) (hunit : frame.unitId ≠ 0) :
    ∃ reply, Bridged routeTable frame ((handleFrame routeTable frame).trace serve s) reply := by
  rw [handleFrame, if_neg hunit]
  cases hroute : routeTable.resolveRoute frame.unitId with
  | none =>
    have hforwarded : Forwarded frame (routeTable.resolveRoute frame.unitId).isSome
        ([] : List (Event Addr)) (makeExceptionFrame (transactionIdOf frame) frame.unitId (frame.pdu.headD 0)
          gatewayPathUnavailable) := by
      refine ⟨?_, fun f hf => absurd hf List.not_mem_nil, rfl, rfl⟩
      rw [hroute]
      exact replyOf_makeExceptionFrame frame gatewayPathUnavailable
    exact ⟨_, hforwarded.bridged hframe _⟩
  | some route =>
    dsimp only
    rw [Program.trace_bind, trace_perform]
    have hforwarded := forwarded_forwardToBackend serve s frame route.backendAddr
      route.rtuOverTcpFramingPolicy
    exact ⟨_, Forwarded.bridged hframe (hroute ▸ hforwarded) _⟩

end Unicast

/-! ## Broadcasts -/

section Broadcast

variable {Addr σ : Type} (serve : Component (gatewayInterface Addr) σ) (s : σ)

/-- A frame for all units has been handed to one task for each backend, and not answered. -/
structure Distributed [DecidableEq Addr] (routeTable : RouteTable Addr) (frame : Frame)
    (trace : List (Event Addr)) : Prop where
  replies : repliesOf trace = []
  spawned : spawnedOf trace =
    routeTable.allBackends.map fun addr => (addr, { header := .rtu frame.unitId, pdu := frame.pdu })
  forwarded : forwardedOf trace = []
  encodable : ∀ dst, encodeFrame (mbapToRtu frame) dst = (.ok (), dst ++ (mbapToRtu frame).adu)

theorem trace_spawnAll (rtuFrame : Frame) (backends : List Addr) :
    (spawnAll rtuFrame backends).trace serve s
      = backends.map fun addr => (⟨.spawn addr rtuFrame, ()⟩ : Event Addr) := by
  induction backends generalizing s with
  | nil => rfl
  | cons backend backends ih =>
    rw [spawnAll, Program.trace_bind, trace_perform, ih]
    rfl

theorem distributed_handleFrame [DecidableEq Addr] (routeTable : RouteTable Addr) {frame : Frame}
    (hframe : frame.MbapSendable) (hunit : frame.unitId = 0) :
    Distributed routeTable frame ((handleFrame routeTable frame).trace serve s) := by
  obtain ⟨_, -, -, hpos, hle, -⟩ := hframe
  have htrace : (handleFrame routeTable frame).trace serve s
      = routeTable.allBackends.map fun addr =>
          (⟨.spawn addr (mbapToRtu frame), ()⟩ : Event Addr) := by
    rw [handleFrame, if_pos hunit, Program.trace_bind, trace_spawnAll]
    exact List.append_nil _
  rw [htrace]
  refine ⟨?_, ?_, ?_, encodeFrame_eq hpos hle⟩
  · rw [repliesOf, List.filterMap_map]
    exact List.filterMap_eq_nil_iff.mpr fun _ _ => rfl
  · rw [spawnedOf, List.filterMap_map]
    exact congrFun List.filterMap_eq_map _
  · rw [forwardedOf, List.filterMap_map]
    exact List.filterMap_eq_nil_iff.mpr fun _ _ => rfl

/-- The task sends the broadcast once, if it gets a connection. -/
theorem forwardedOf_broadcastTask (backend : Addr) (rtuFrame : Frame) :
    forwardedOf ((broadcastTask backend rtuFrame).trace serve s)
      = if (serve (.connect backend .crcScanCompatibility) s).1 then [rtuFrame] else [] := by
  rw [broadcastTask, Program.trace_bind, trace_perform, run_perform]
  cases serve (.connect backend .crcScanCompatibility) s with
  | mk connected s => cases connected <;> rfl

end Broadcast

/-! ## The connection -/

section Connection

variable {Addr σ : Type} [DecidableEq Addr]

/-- What one pass of the loop has done with a frame. -/
structure Handled (routeTable : RouteTable Addr) (frame : Frame) (trace : List (Event Addr)) :
    Prop where
  unicast : frame.unitId ≠ 0 → ∃ reply, Bridged routeTable frame trace reply
  broadcast : frame.unitId = 0 → Distributed routeTable frame trace

theorem handled_handleFrame (serve : Component (gatewayInterface Addr) σ) (s : σ)
    (routeTable : RouteTable Addr) {frame : Frame} (hframe : frame.MbapSendable) :
    Handled routeTable frame ((handleFrame routeTable frame).trace serve s) :=
  ⟨bridged_handleFrame serve s routeTable hframe, distributed_handleFrame serve s routeTable hframe⟩

/-- The loop stops early only at a reply that could not be sent. -/
theorem reply_failed_of_handleFrame (serve : Component (gatewayInterface Addr) σ) (s : σ)
    (routeTable : RouteTable Addr) {frame : Frame}
    (h : ((handleFrame routeTable frame).run serve s).1 = false) :
    ∃ reply, (⟨.reply reply, false⟩ : Event Addr) ∈
      (handleFrame routeTable frame).trace serve s := by
  rw [handleFrame] at h ⊢
  by_cases hunit : frame.unitId = 0
  · rw [if_pos hunit, Program.run_bind] at h
    cases h
  · rw [if_neg hunit] at h ⊢
    cases hroute : routeTable.resolveRoute frame.unitId with
    | none =>
      rw [hroute] at h
      rw [trace_perform]
      refine ⟨_, List.mem_singleton.mpr (congrArg _ ?_)⟩
      exact h.symm
    | some route =>
      rw [hroute] at h
      dsimp only at h ⊢
      rw [Program.run_bind, run_perform] at h
      rw [Program.trace_bind, trace_perform]
      refine ⟨_, List.mem_append_right _ (List.mem_singleton.mpr (congrArg _ ?_))⟩
      exact h.symm

/-- The frames of a connection are handled in turn, up to a reply that cannot be sent. -/
structure HandledInTurn (routeTable : RouteTable Addr) (frames : List Frame)
    (trace : List (Event Addr)) (passes : List (Frame × List (Event Addr))) (rest : List Frame) :
    Prop where
  frames_eq : passes.map Prod.fst ++ rest = frames
  trace_eq : (passes.map Prod.snd).flatten = trace
  handled : ∀ p ∈ passes, Handled routeTable p.1 p.2
  stopped : rest ≠ [] → ∃ reply, (⟨.reply reply, false⟩ : Event Addr) ∈ trace

theorem handleTcpConnection_handles (serve : Component (gatewayInterface Addr) σ)
    (routeTable : RouteTable Addr) (frames : List Frame) (hframes : ∀ f ∈ frames, f.MbapSendable)
    (s : σ) :
    ∃ passes rest, HandledInTurn routeTable frames
      ((handleTcpConnection routeTable frames).trace serve s) passes rest := by
  induction frames generalizing s with
  | nil => exact ⟨[], [], rfl, rfl, fun p hp => absurd hp List.not_mem_nil, absurd rfl⟩
  | cons frame frames ih =>
    obtain ⟨hframe, hframes⟩ := List.forall_mem_cons.mp hframes
    have hfirst := handled_handleFrame serve s routeTable hframe
    rw [handleTcpConnection, Program.trace_bind]
    cases hgoes : ((handleFrame routeTable frame).run serve s).1 with
    | false =>
      refine ⟨[(frame, _)], frames, rfl, rfl, List.forall_mem_singleton.mpr hfirst, fun _ => ?_⟩
      obtain ⟨reply, hreply⟩ := reply_failed_of_handleFrame serve s routeTable hgoes
      exact ⟨reply, List.mem_append_left _ hreply⟩
    | true =>
      obtain ⟨passes, rest, h⟩ := ih hframes ((handleFrame routeTable frame).run serve s).2
      refine ⟨(frame, _) :: passes, rest, congrArg _ h.frames_eq, congrArg _ h.trace_eq,
        List.forall_mem_cons.mpr ⟨hfirst, h.handled⟩, fun hrest => ?_⟩
      obtain ⟨reply, hreply⟩ := h.stopped hrest
      exact ⟨reply, List.mem_append_right _ hreply⟩

/-- What the gateway does with the frames of a connection, and what its table is like. -/
structure Translates (entries : List (RouteEntry Addr)) (routeTable : RouteTable Addr)
    (serve : Component (gatewayInterface Addr) σ) (s : σ) (frames : List Frame) : Prop where
  connection : ∃ passes rest, HandledInTurn routeTable frames
    ((handleTcpConnection routeTable frames).trace serve s) passes rest
  oneRoute : ∀ unitId, (entries.filter fun e => e.unitIdRange.contains unitId).length ≤ 1
  anyOrder : ∀ entries', entries'.Perm entries → ∃ routeTable',
    RouteTable.new entries' = some routeTable' ∧
    ∀ unitId, routeTable'.resolveRoute unitId = routeTable.resolveRoute unitId
  backends : routeTable.allBackends.Nodup ∧
    ∀ addr, addr ∈ routeTable.allBackends ↔ ∃ e ∈ entries, e.backendAddr = addr
  tasks : ∀ backend rtuFrame, forwardedOf ((broadcastTask backend rtuFrame).trace serve s)
    = if (serve (.connect backend .crcScanCompatibility) s).1 then [rtuFrame] else []

/-- Two backends, the second for units 11 to 20. -/
def twoBackends : List (RouteEntry Nat) :=
  [{ unitIdRange := ⟨1, 10⟩, backendAddr := 5001, rtuOverTcpFramingPolicy := .crcScanCompatibility },
    { unitIdRange := ⟨11, 20⟩, backendAddr := 5002, rtuOverTcpFramingPolicy := .functionAwareStrict }]

/-- Backends that take every frame and never answer. -/
def silentBackends : Component (gatewayInterface Nat) Unit
  | .connect _ _, s => (true, s)
  | .send _, s => (true, s)
  | .recv _, s => (.timedOut, s)
  | .reply _, s => (true, s)
  | .spawn _ _, s => ((), s)

def readRequestBytes : List UInt8 := [0, 9, 0, 0, 0, 6, 5, 0x03, 0, 0, 0, 1]

end Connection

end RustyModbus.Gateway
