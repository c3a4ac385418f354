import RustyModbus.Codec.Response

/-!
# The grammar of file-record messages

What the decoders of function codes 0x14 and 0x15 accept, without their loops: a byte count in
the range of the message, that many bytes, and these a string of groups. There are three kinds of
groups: the headers of a read request, the headers with values of a write, and the data of a read
response. A string of groups of one kind can be taken apart in one way only, since each group says
in its first bytes where it ends.
-/

namespace RustyModbus

open Wire

/-! ## Groups -/

/-- One group of a read request: a header in range. -/
abbrev ReadGroup := { s : FileSubRequest // s.Valid }

def ReadGroup.wire (g : ReadGroup) : List UInt8 := g.val.wire

@[simp] theorem ReadGroup.wire_length (g : ReadGroup) : g.wire.length = 7 := rfl

theorem FileSubRequest.wire_inj {s s' : FileSubRequest} (h : s.wire = s'.wire) : s = s' := by
  obtain ⟨href, hwords⟩ := List.cons.inj h
  obtain ⟨hfirst, hlen⟩ := List.append_inj hwords rfl
  obtain ⟨hfile, hrec⟩ := List.append_inj hfirst rfl
  cases s
  cases s'
  rw [FileSubRequest.mk.injEq]
  exact ⟨href, toBeBytes_inj hfile, toBeBytes_inj hrec, toBeBytes_inj hlen⟩

theorem ReadGroup.append_inj (g g' : ReadGroup) (x y : List UInt8)
    (h : g.wire ++ x = g'.wire ++ y) : g = g' ∧ x = y := by
  obtain ⟨hwire, hrest⟩ := List.append_inj h rfl
  exact ⟨Subtype.ext (FileSubRequest.wire_inj hwire), hrest⟩

theorem WriteGroup.append_inj (g g' : WriteGroup) (x y : List UInt8)
    (h : g.wire ++ x = g'.wire ++ y) : g = g' ∧ x = y := by
  rw [WriteGroup.wire, WriteGroup.wire, List.append_assoc, List.append_assoc] at h
  obtain ⟨hheader, hvalues⟩ := List.append_inj h rfl
  have hsub := FileSubRequest.wire_inj hheader
  have hfile : g.fileNumber = g'.fileNumber := congrArg FileSubRequest.fileNumber hsub
  have hrec : g.recordNumber = g'.recordNumber := congrArg FileSubRequest.recordNumber hsub
  have hlen : g.recordLength = g'.recordLength := congrArg FileSubRequest.recordLength hsub
  -- the header says how many values follow
  obtain ⟨hvalues, hrest⟩ := List.append_inj hvalues (by
    rw [g.values_length, g'.values_length, hlen])
  cases g
  cases g'
  rw [WriteGroup.mk.injEq]
  exact ⟨⟨hfile, hrec, hlen, hvalues⟩, hrest⟩

theorem ReadDataGroup.append_inj (g g' : ReadDataGroup) (x y : List UInt8)
    (h : g.wire ++ x = g'.wire ++ y) : g = g' ∧ x = y := by
  obtain ⟨hcount, htail⟩ := List.cons.inj h
  obtain ⟨-, hdata⟩ := List.cons.inj htail
  have hlen : g.data.length = g'.data.length := by
    have hnat := congrArg UInt8.toNat hcount
    have hshort := g.short
    have hshort' := g'.short
    rw [UInt8.toNat_ofNat', UInt8.toNat_ofNat'] at hnat
    omega
  obtain ⟨hdata, hrest⟩ := List.append_inj hdata hlen
  cases g
  cases g'
  rw [ReadDataGroup.mk.injEq]
  exact ⟨hdata, hrest⟩

theorem readGroups_unique {gs gs' : List ReadGroup}
    (h : gs.flatMap ReadGroup.wire = gs'.flatMap ReadGroup.wire) : gs = gs' :=
  flatMap_inj (fun _ => List.cons_ne_nil _ _) ReadGroup.append_inj h

theorem writeGroups_unique {gs gs' : List WriteGroup}
    (h : gs.flatMap WriteGroup.wire = gs'.flatMap WriteGroup.wire) : gs = gs' :=
  flatMap_inj (fun _ => List.cons_ne_nil _ _) WriteGroup.append_inj h

theorem readDataGroups_unique {gs gs' : List ReadDataGroup}
    (h : gs.flatMap ReadDataGroup.wire = gs'.flatMap ReadDataGroup.wire) : gs = gs' :=
  flatMap_inj (fun _ => List.cons_ne_nil _ _) ReadDataGroup.append_inj h

/-! ## Messages -/

/-- Cut into pieces of seven bytes, a string of headers falls apart into the headers. -/
theorem chunksExact_readGroups (gs : List ReadGroup) :
    chunksExact 7 (gs.flatMap ReadGroup.wire) = gs.map ReadGroup.wire := by
  induction gs with
  | nil => simp [chunksExact]
  | cons g gs ih =>
    rw [List.flatMap_cons, chunksExact, if_pos (by simp), List.take_left' g.wire_length,
      List.drop_left' g.wire_length, ih, List.map_cons]

theorem length_readGroups (gs : List ReadGroup) :
    (gs.flatMap ReadGroup.wire).length = gs.length * 7 := by
  induction gs with
  | nil => rfl
  | cons g gs ih =>
    rw [List.flatMap_cons, List.length_append, ih, g.wire_length, List.length_cons]
    omega

/-- A byte count from `minimum` to `maximum`, and as many bytes behind it, which are a string of
groups. -/
def Grouped {α : Type} (minimum maximum : Nat) (wire : α → List UInt8) (data : List UInt8) : Prop :=
  ∃ (byteCount : UInt8) (payload : List UInt8), data = byteCount :: payload ∧
    minimum ≤ byteCount.toNat ∧ byteCount.toNat ≤ maximum ∧ payload.length = byteCount.toNat ∧
    ∃ gs : List α, payload = gs.flatMap wire

/-- The check of the pieces of seven bytes, as a check for a string of headers. -/
theorem readGroups_iff (data : List UInt8) :
    (data.length % 7 = 0 ∧ ∀ c ∈ chunksExact 7 data, ∃ s : FileSubRequest, c = s.wire ∧ s.Valid) ↔
      ∃ gs : List ReadGroup, data = gs.flatMap ReadGroup.wire := by
  constructor
  · fun_induction chunksExact 7 data with
    | case1 data hfull ih =>
      rintro ⟨hlen, hchunks⟩
      obtain ⟨s, hs, hvalid⟩ := hchunks _ List.mem_cons_self
      have hrest : (data.drop 7).length % 7 = 0 := by
        rw [List.length_drop]
        omega
      obtain ⟨gs, hgs⟩ := ih ⟨hrest, fun c hc => hchunks c (List.mem_cons_of_mem _ hc)⟩
      refine ⟨⟨s, hvalid⟩ :: gs, ?_⟩
      calc data = data.take 7 ++ data.drop 7 := (List.take_append_drop 7 data).symm
        _ = s.wire ++ gs.flatMap ReadGroup.wire := by rw [hs, hgs]
    | case2 data hfull =>
      rintro ⟨hlen, -⟩
      refine ⟨[], List.length_eq_zero_iff.mp ?_⟩
      omega
  · rintro ⟨gs, rfl⟩
    rw [chunksExact_readGroups, length_readGroups]
    refine ⟨Nat.mul_mod_left _ _, fun c hc => ?_⟩
    obtain ⟨g, -, rfl⟩ := List.mem_map.mp hc
    exact ⟨g.val, rfl, g.property⟩

theorem validateReadFileSubRequests_eq_ok {data : List UInt8} :
    validateReadFileSubRequests data = .ok () ↔
      ∃ gs : List ReadGroup, data = gs.flatMap ReadGroup.wire :=
  (walkSubRequests_eq_ok readsHeader_decode data).trans (readGroups_iff data)

/-- A decoder of counted data accepts the strings of groups that its check of the data accepts. -/
theorem decode_accepts_iff {α : Type} {minimum maximum : Nat} {wire : α → List UInt8}
    {validate : List UInt8 → Except DecodeError Unit}
    (h : ∀ payload, validate payload = .ok () ↔ ∃ gs : List α, payload = gs.flatMap wire)
    (data : List UInt8) :
    (∃ r, CountedData.decode (checkFileRecordByteCount minimum maximum) validate data = .ok r) ↔
      Grouped minimum maximum wire data := by
  constructor
  · rintro ⟨r, hr⟩
    obtain ⟨hdata, hcount, hlen, hvalid⟩ := CountedData.decode_eq_ok.mp hr
    obtain ⟨hmin, hmax⟩ := checkFileRecordByteCount_eq_ok.mp hcount
    exact ⟨r.byteCount, r.data, hdata, hmin, hmax, hlen, (h _).mp hvalid⟩
  · rintro ⟨byteCount, payload, hdata, hmin, hmax, hlen, hgroups⟩
    exact ⟨⟨byteCount, payload⟩, CountedData.decode_eq_ok.mpr
      ⟨hdata, checkFileRecordByteCount_eq_ok.mpr ⟨hmin, hmax⟩, hlen, (h _).mpr hgroups⟩⟩

theorem writeFileRecordRequest_accepts_iff (data : List UInt8) :
    (∃ r, WriteFileRecordRequest.decode data = .ok r) ↔ Grouped 9 251 WriteGroup.wire data :=
  decode_accepts_iff (walkWriteGroups_eq_ok readsHeader_decode) data

theorem writeFileRecordResponse_accepts_iff (data : List UInt8) :
    (∃ r, WriteFileRecordResponse.decode data = .ok r) ↔ Grouped 9 251 WriteGroup.wire data :=
  decode_accepts_iff (walkWriteGroups_eq_ok (readsHeader_readSubRequest _ _)) data

theorem readFileRecordRequest_accepts_iff (data : List UInt8) :
    (∃ r, ReadFileRecordRequest.decode data = .ok r) ↔ Grouped 7 245 ReadGroup.wire data :=
  decode_accepts_iff (fun _ => validateReadFileSubRequests_eq_ok) data

theorem readFileRecordResponse_accepts_iff (data : List UInt8) :
    (∃ r, ReadFileRecordResponse.decode data = .ok r) ↔ Grouped 4 250 ReadDataGroup.wire data :=
  decode_accepts_iff walkReadGroups_eq_ok data

end RustyModbus
