import RustyModbus.Client.Transaction
import RustyModbus.Lib.Bits
import RustyModbus.Lib.Interaction

/-!
# Typed request methods

The methods of a client that read and write coils and registers. Each of them checks and
encodes its arguments, sends the request, if need be several times, and checks that the
response has the shape the request asked for. A method is a program of exchanges with the
other side: an exchange that is not made is a request that is not sent.
-/

namespace RustyModbus.Client

open Wire Interaction

/-! ## Sending -/

/-- A PDU whose length has been checked. -/
abbrev SendablePdu := { pdu : List UInt8 // 0 < pdu.length ∧ pdu.length ≤ maxPduSize }

/-- What a client does on its connection: one attempt of a request, or a broadcast. -/
inductive Exchange
  | request (unitId : UnitId) (functionCode : FunctionCode) (pdu : SendablePdu)
  | broadcast (pdu : SendablePdu)

@[reducible] def Exchange.Reply : Exchange → Type
  | request _ _ _ => Except ClientError OwnedResponsePdu
  | broadcast _ => Except ClientError Unit

abbrev exchangeInterface : Interface where
  Call := Exchange
  Reply := Exchange.Reply

abbrev ClientMethod := Fallible exchangeInterface ClientError

/-- The operator `?`: an error is an error of the method. -/
def orReturn {α : Type} (x : Except ClientError α) : ClientMethod α := Fallible.ofExcept x

def checkedPduLength (pdu : List UInt8) : Except ClientError SendablePdu :=
  if h0 : pdu.length = 0 then .error (.transport (.frame (.invalidPduLength pdu.length 1)))
  else if h : pdu.length > maxPduSize then
    .error (.transport (.frame (.pduLengthOverflow pdu.length maxPduSize)))
  else .ok ⟨pdu, Nat.pos_of_ne_zero h0, Nat.not_lt.mp h⟩

def requestFrame (txnId : UInt16) (unitId : UnitId) (pdu : SendablePdu) : Frame :=
  { header := .mbap (MbapHeader.new txnId unitId pdu.val.length pdu.property.2), pdu := pdu.val }

structure RetryConfig where
  maxRetries : UInt32
  retryableExceptions : List ExceptionCode
deriving DecidableEq, Repr

def RetryConfig.isRetryable (retry : RetryConfig) (code : ExceptionCode) : Bool :=
  code == .serverDeviceBusy && retry.retryableExceptions.contains .serverDeviceBusy

inductive RequestKind
  | replaySafe
  | mutating
deriving DecidableEq, Repr

inductive AttemptDisposition
  | complete (result : Except ClientError OwnedResponsePdu)
  | retry (error : ClientError)

def classifyAttempt (retry : RetryConfig) (requestKind : RequestKind)
    (result : Except ClientError OwnedResponsePdu) : AttemptDisposition :=
  match result with
  | .ok (.exception exc) =>
    if exc.exceptionCode = .acknowledge then .complete (.ok (.exception exc))
    else if exc.exceptionCode = .serverDeviceBusy ∧ retry.isRetryable exc.exceptionCode then
      .retry (.exception exc)
    else .complete (.ok (.exception exc))
  | .ok response => .complete (.ok response)
  | .error .timeout =>
    if requestKind = .replaySafe then .retry .timeout else .complete (.error .timeout)
  | .error (.transport .timeout) =>
    if requestKind = .replaySafe then .retry (.transport .timeout)
    else .complete (.error (.transport .timeout))
  | .error error => .complete (.error error)

/-- The loop of `send_with_retry`, without the waiting between the attempts. -/
def attemptLoop (retry : RetryConfig) (unitId : UnitId) (functionCode : FunctionCode)
    (pdu : SendablePdu) (requestKind : RequestKind) (attemptsMade : Nat) :
    Program exchangeInterface (Except ClientError OwnedResponsePdu) :=
  .call (I := exchangeInterface) (.request unitId functionCode pdu) fun result =>
    let attempts := attemptsMade + 1
    match classifyAttempt retry requestKind result with
    | .complete result => .done result
    | .retry error =>
      if _h : attempts > retry.maxRetries.toNat ∨ attempts = 4294967295 then
        .done (.error (.retriesExhausted attempts error))
      else attemptLoop retry unitId functionCode pdu requestKind attempts
termination_by retry.maxRetries.toNat - attemptsMade

def sendWithRetry (retry : RetryConfig) (unitId : UnitId) (functionCode : FunctionCode)
    (pdu : List UInt8) (requestKind : RequestKind) : ClientMethod OwnedResponsePdu := do
  let pdu ← orReturn (checkedPduLength pdu)
  ExceptT.mk (attemptLoop retry unitId functionCode pdu requestKind 0)

def sendBroadcast (pdu : List UInt8) : ClientMethod Unit := do
  let pdu ← orReturn (checkedPduLength pdu)
  ExceptT.mk (Program.perform (I := exchangeInterface) (.broadcast pdu))

/-! ## Checks of arguments and responses -/

def maxWriteMultipleCoils : Nat := 1968
def maxWriteMultipleRegisters : Nat := 123
def maxReadWriteMultipleWriteRegisters : Nat := 121

/-- Encode into a zeroed buffer of `size` bytes and take what has been written. -/
def encodeRequest (encodeInto : Encoder EncodeError Nat) (size : Nat) :
    Except ClientError (List UInt8) :=
  match encodeInto.run (List.replicate size 0) with
  | .ok len buf => .ok (buf.take len)
  | .error e _ => .error (.encode e)

def validateResponseLength (functionCode : UInt8) (expected actual : Nat) :
    Except ClientError Unit :=
  match compare actual expected with
  | .lt => .error (.shortResponse expected actual)
  | .eq => .ok ()
  | .gt => .error (.unexpectedResponseLength functionCode expected actual)

/-- The unused high bits of the last byte must be zero. -/
def validatePadding (functionCode : UInt8) (remainder : Nat) (actual : UInt8) :
    Except ClientError Unit :=
  let invalidMask : UInt8 := 0xFF <<< UInt8.ofNat remainder
  rejectIf (remainder ≠ 0 ∧ actual &&& invalidMask ≠ 0)
    (.unexpectedResponsePadding functionCode invalidMask actual)

def validateBitResponseShape (functionCode : UInt8) (quantity : UInt16) (data : List UInt8) :
    Except ClientError Unit := do
  let expected := (quantity.toNat + 7) / 8
  validateResponseLength functionCode expected data.length
  validatePadding functionCode (quantity.toNat % 8) data[expected - 1]!

def validateRegisterResponseShape (functionCode : UInt8) (quantity : UInt16) (data : List UInt8) :
    Except ClientError Unit :=
  validateResponseLength functionCode (quantity.toNat * 2) data.length

def checkedQuantityLen (len maximum : Nat) : Except ClientError UInt16 :=
  let quantity : UInt16 := if len < 65536 then UInt16.ofNat len else 65535
  if len = 0 ∨ len > maximum then .error (.encode (.quantityOutOfRange quantity))
  else .ok quantity

def checkedByteCountValue (len minimum maximum : Nat) : Except ClientError UInt8 :=
  if len < minimum ∨ len > maximum then .error (.encode (.byteCountOutOfRange len minimum maximum))
  else if len < 256 then .ok (UInt8.ofNat len)
  else .error (.encode (.byteCountOutOfRange len minimum maximum))

def checkedByteCountLen (len : Nat) : Except ClientError UInt8 :=
  checkedByteCountValue len 0 255

def expectEcho (field : String) (expected got : UInt16) : Except ClientError Unit :=
  if expected = got then .ok () else .error (.unexpectedResponseEcho field expected got)

/-- `if val { coil_bytes[i / 8] |= 1 << (i % 8) }`. -/
def packCoil (bytes : List UInt8) (i : Nat) (value : Bool) : List UInt8 :=
  if value then bytes.set (i / 8) (bytes[i / 8]! ||| 1 <<< UInt8.ofNat (i % 8)) else bytes

/-- The coils as bytes: the loop of `write_multiple_coils` over a zeroed vector. -/
def packCoils (values : List Bool) (byteCount : Nat) : List UInt8 :=
  Fin.foldl values.length (fun bytes i => packCoil bytes i values[i]) (List.replicate byteCount 0)

/-- The registers as bytes: the loop of the register writes over a zeroed vector. -/
def packRegisters (values : List UInt16) : List UInt8 :=
  Fin.foldl values.length (fun bytes i => writeAt (i * 2) (toBeBytes values[i]) bytes)
    (List.replicate (values.length * 2) 0)

/-! ## The methods -/

/-- What every method makes of a response: the variant it waits for is checked by `check`,
which is nothing for the others. -/
def typedResponse {α : Type} (check : OwnedResponsePdu → Option (Except ClientError α))
    (response : OwnedResponsePdu) : Except ClientError α :=
  match check response, response with
  | some result, _ => result
  | none, .exception exc => .error (.exception exc)
  | none, _ => .error (.codec (.unknownFunctionCode 0))

/-- Send a request and check the response. -/
def exchange {α : Type} (retry : RetryConfig) (unitId : UnitId) (fc : FunctionCode)
    (pdu : List UInt8) (requestKind : RequestKind)
    (check : OwnedResponsePdu → Option (Except ClientError α)) : ClientMethod α := do
  let response ← sendWithRetry retry unitId fc pdu requestKind
  orReturn (typedResponse check response)

/-- A read: broadcasts are refused, the request is encoded and may be sent again. -/
def read {α : Type} (retry : RetryConfig) (fc : FunctionCode) (maxQuantity : UInt16)
    (unitId : UnitId) (address quantity : UInt16)
    (check : OwnedResponsePdu → Option (Except ClientError α)) : ClientMethod α := do
  orReturn (rejectIf (unitId = 0) .broadcastReadNotAllowed)
  let req : AddressRange := { address, quantity }
  let pdu ← orReturn (encodeRequest (req.encodeInto fc maxQuantity) 5)
  exchange retry unitId fc pdu .replaySafe check

/-- The coils of a bit response. -/
def bitValues (fc : FunctionCode) (quantity : UInt16) (r : CountedData) :
    Except ClientError (List Bool) := do
  validateBitResponseShape fc.code quantity r.data
  return (List.range quantity.toNat).map r.coil

/-- The registers of a register response. -/
def registerValues (fc : FunctionCode) (quantity : UInt16) (r : CountedData) :
    Except ClientError (List UInt16) := do
  validateRegisterResponseShape fc.code quantity r.data
  return r.registers

def readCoils (retry : RetryConfig) (unitId : UnitId) (address quantity : UInt16) :
    ClientMethod (List Bool) :=
  read retry .readCoils 2000 unitId address quantity fun
    | .readCoils r => some (bitValues .readCoils quantity r)
    | _ => none

def readDiscreteInputs (retry : RetryConfig) (unitId : UnitId) (address quantity : UInt16) :
    ClientMethod (List Bool) :=
  read retry .readDiscreteInputs 2000 unitId address quantity fun
    | .readDiscreteInputs r => some (bitValues .readDiscreteInputs quantity r)
    | _ => none

def readHoldingRegisters (retry : RetryConfig) (unitId : UnitId) (address quantity : UInt16) :
    ClientMethod (List UInt16) :=
  read retry .readHoldingRegisters 125 unitId address quantity fun
    | .readHoldingRegisters r => some (registerValues .readHoldingRegisters quantity r)
    | _ => none

def readInputRegisters (retry : RetryConfig) (unitId : UnitId) (address quantity : UInt16) :
    ClientMethod (List UInt16) :=
  read retry .readInputRegisters 125 unitId address quantity fun
    | .readInputRegisters r => some (registerValues .readInputRegisters quantity r)
    | _ => none

/-- A write, once encoded: a broadcast is not answered, any other is sent and the response
has to echo it. -/
def write (retry : RetryConfig) (fc : FunctionCode) (unitId : UnitId) (pdu : List UInt8)
    (check : OwnedResponsePdu → Option (Except ClientError Unit)) : ClientMethod Unit :=
  if unitId = 0 then sendBroadcast pdu
  else exchange retry unitId fc pdu .mutating check

def writeSingleCoil (retry : RetryConfig) (unitId : UnitId) (address : UInt16) (value : Bool) :
    ClientMethod Unit := do
  let req : WriteSingleCoilRequest := { address, value := CoilValue.fromBool value }
  let pdu ← orReturn (encodeRequest req.encodeInto 5)
  write retry .writeSingleCoil unitId pdu fun
    | .writeSingleCoil resp => some do
      expectEcho "address" address resp.address
      expectEcho "value" req.value.toWire resp.value.toWire
    | _ => none

def writeSingleRegister (retry : RetryConfig) (unitId : UnitId) (address value : UInt16) :
    ClientMethod Unit := do
  let req : WriteSingleRegisterRequest := { address, value }
  let pdu ← orReturn (encodeRequest req.encodeInto 5)
  write retry .writeSingleRegister unitId pdu fun
    | .writeSingleRegister resp => some do
      expectEcho "address" address resp.address
      expectEcho "value" value resp.value
    | _ => none

def writeMultipleCoils (retry : RetryConfig) (unitId : UnitId) (address : UInt16)
    (values : List Bool) : ClientMethod Unit := do
  let quantity ← orReturn (checkedQuantityLen values.length maxWriteMultipleCoils)
  let byteCount ← orReturn (checkedByteCountLen ((values.length + 7) / 8))
  let req : WriteMultipleCoilsRequest :=
    { address, quantity, byteCount, values := packCoils values byteCount.toNat }
  let pdu ← orReturn (encodeRequest (WriteMultipleCoilsRequest.encodeInto req) 256)
  write retry .writeMultipleCoils unitId pdu fun
    | .writeMultipleCoils resp => some do
      expectEcho "address" address resp.address
      expectEcho "quantity" quantity resp.quantity
    | _ => none

def writeMultipleRegisters (retry : RetryConfig) (unitId : UnitId) (address : UInt16)
    (values : List UInt16) : ClientMethod Unit := do
  let quantity ← orReturn (checkedQuantityLen values.length maxWriteMultipleRegisters)
  let byteCount ← orReturn (checkedByteCountLen (values.length * 2))
  let req : WriteMultipleRegistersRequest :=
    { address, quantity, byteCount, values := packRegisters values }
  let pdu ← orReturn (encodeRequest (WriteMultipleRegistersRequest.encodeInto req) 256)
  write retry .writeMultipleRegisters unitId pdu fun
    | .writeMultipleRegisters resp => some do
      expectEcho "address" address resp.address
      expectEcho "quantity" quantity resp.quantity
    | _ => none

def maskWriteRegister (retry : RetryConfig) (unitId : UnitId) (address andMask orMask : UInt16) :
    ClientMethod Unit := do
  let req : MaskWriteRegisterRequest := { address, andMask, orMask }
  let pdu ← orReturn (encodeRequest req.encodeInto 7)
  write retry .maskWriteRegister unitId pdu fun
    | .maskWriteRegister resp => some do
      expectEcho "address" address resp.address
      expectEcho "and_mask" andMask resp.andMask
      expectEcho "or_mask" orMask resp.orMask
    | _ => none

def readWriteMultipleRegisters (retry : RetryConfig) (unitId : UnitId)
    (readAddress readQuantity writeAddress : UInt16) (writeValues : List UInt16) :
    ClientMethod (List UInt16) := do
  orReturn (rejectIf (unitId = 0) .broadcastReadNotAllowed)
  let writeQuantity ←
    orReturn (checkedQuantityLen writeValues.length maxReadWriteMultipleWriteRegisters)
  let writeByteCount ← orReturn (checkedByteCountLen (writeValues.length * 2))
  let req : ReadWriteMultipleRegistersRequest :=
    { readAddress, readQuantity, writeAddress, writeQuantity, writeByteCount,
      writeRegisterValues := packRegisters writeValues }
  let pdu ← orReturn (encodeRequest req.encodeInto 256)
  exchange retry unitId .readWriteMultipleRegisters pdu .mutating fun
    | .readWriteMultipleRegisters r => some (registerValues .readWriteMultipleRegisters readQuantity r)
    | _ => none

/-! ## Calls -/

/-- A call of one of the methods, with its arguments. -/
inductive ClientCall
  | readCoils (address quantity : UInt16)
  | readDiscreteInputs (address quantity : UInt16)
  | readHoldingRegisters (address quantity : UInt16)
  | readInputRegisters (address quantity : UInt16)
  | writeSingleCoil (address : UInt16) (value : Bool)
  | writeSingleRegister (address value : UInt16)
  | writeMultipleCoils (address : UInt16) (values : List Bool)
  | writeMultipleRegisters (address : UInt16) (values : List UInt16)
  | maskWriteRegister (address andMask orMask : UInt16)
  | readWriteMultipleRegisters (readAddress readQuantity writeAddress : UInt16)
    (writeValues : List UInt16)
deriving DecidableEq, Repr

/-- What a call returns. -/
inductive Value
  | bits (values : List Bool)
  | registers (values : List UInt16)
  | done
deriving DecidableEq, Repr

def ClientCall.method (retry : RetryConfig) (unitId : UnitId) : ClientCall → ClientMethod Value
  | readCoils address quantity => do
    return .bits (← Client.readCoils retry unitId address quantity)
  | readDiscreteInputs address quantity => do
    return .bits (← Client.readDiscreteInputs retry unitId address quantity)
  | readHoldingRegisters address quantity => do
    return .registers (← Client.readHoldingRegisters retry unitId address quantity)
  | readInputRegisters address quantity => do
    return .registers (← Client.readInputRegisters retry unitId address quantity)
  | writeSingleCoil address value => do
    Client.writeSingleCoil retry unitId address value
    return .done
  | writeSingleRegister address value => do
    Client.writeSingleRegister retry unitId address value
    return .done
  | writeMultipleCoils address values => do
    Client.writeMultipleCoils retry unitId address values
    return .done
  | writeMultipleRegisters address values => do
    Client.writeMultipleRegisters retry unitId address values
    return .done
  | maskWriteRegister address andMask orMask => do
    Client.maskWriteRegister retry unitId address andMask orMask
    return .done
  | readWriteMultipleRegisters readAddress readQuantity writeAddress writeValues => do
    return .registers (← Client.readWriteMultipleRegisters retry unitId readAddress readQuantity
      writeAddress writeValues)

end RustyModbus.Client
