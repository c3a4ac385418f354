import RustyModbus.Client.Checks
import RustyModbus.Frame.Bounds

/-!
# The checks of a response read in bounds

The part of a method that looks into the bytes of a response, with reads that fault. The length
check comes first; behind it the last byte and the byte of every coil that was asked for are there.
-/

namespace RustyModbus.Checked

open Wire Client

def validateBitResponseShape (functionCode : UInt8) (quantity : UInt16) (data : List UInt8) :
    Except (Fault ClientError) Unit := do
  let expected := (quantity.toNat + 7) / 8
  Fault.lift (validateResponseLength functionCode expected data.length)
  let remainder := quantity.toNat % 8
  if remainder ≠ 0 then
    let actual ← index data (expected - 1)
    Fault.lift (validatePadding functionCode remainder actual)
  else return ()

def CountedData.coil (r : CountedData) (i : Nat) : Except (Fault ClientError) Bool := do
  let byte ← index r.data (i / 8)
  return (byte >>> UInt8.ofNat (i % 8)) &&& 1 == 1

def CountedData.registers (r : CountedData) : Except (Fault ClientError) (List UInt16) :=
  (chunksExact 2 r.data).mapM fun chunk => do
    let high ← index chunk 0
    let low ← index chunk 1
    return fromBeBytes high low

def bitValues (fc : FunctionCode) (quantity : UInt16) (r : CountedData) :
    Except (Fault ClientError) (List Bool) := do
  validateBitResponseShape fc.code quantity r.data
  (List.range quantity.toNat).mapM (CountedData.coil r)

def registerValues (fc : FunctionCode) (quantity : UInt16) (r : CountedData) :
    Except (Fault ClientError) (List UInt16) := do
  Fault.lift (validateRegisterResponseShape fc.code quantity r.data)
  CountedData.registers r

theorem inBounds_validateBitResponseShape (fc : UInt8) (quantity : UInt16) (data : List UInt8) :
    InBounds (validateBitResponseShape fc quantity data)
      (Client.validateBitResponseShape fc quantity data) := by
  refine .bind (.lift _) fun _ hlen => ?_
  have hlen := validateResponseLength_eq_ok.mp hlen
  dsimp only
  split
  next hrem =>
    rw [index_bind (by omega)]
    exact .lift _
  next hrem =>
    have hnone : validatePadding fc (quantity.toNat % 8) data[(quantity.toNat + 7) / 8 - 1]!
        = .ok () := rejectIf_neg (fun h => hrem h.1) _
    rw [hnone]
    exact .pure _

theorem inBounds_bitValues (fc : FunctionCode) (quantity : UInt16) (r : CountedData) :
    InBounds (bitValues fc quantity r) (Client.bitValues fc quantity r) := by
  refine .bind (inBounds_validateBitResponseShape _ _ _) fun _ hshape => .mapM fun i hi => ?_
  rw [Client.validateBitResponseShape, check_bind_eq_ok, validateResponseLength_eq_ok] at hshape
  have hi := List.mem_range.mp hi
  rw [CountedData.coil, index_bind (by omega)]
  exact .pure _

theorem inBounds_registerValues (fc : FunctionCode) (quantity : UInt16) (r : CountedData) :
    InBounds (registerValues fc quantity r) (Client.registerValues fc quantity r) := by
  refine .bind (.lift _) fun _ _ => .mapM fun chunk hchunk => ?_
  have hlen := length_of_mem_chunksExact hchunk
  rw [index_bind (by omega), index_bind (by omega)]
  exact .pure _

end RustyModbus.Checked
