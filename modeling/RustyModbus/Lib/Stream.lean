/-!
# Incremental decoders of a byte stream

A decoder is handed the bytes received so far and answers with a frame, which it
takes off the front, with "not yet", or with an error. Its caller appends whatever
arrives and calls it again. The stream has no message boundaries of its own, so the
question is whether the frames depend on how the stream was cut when it was received.

They do not if every answer of the decoder is *final*: once it gives a frame or an
error for some bytes, it gives the same one when more bytes follow. `Decoder` bundles a
decoding function with this law and the bookkeeping laws about the buffer.
`feedAll_eq_drain` is the resulting theorem; the proof is one lemma about a single cut
(`drain_append`) and an induction over the chunks.

The second half builds such decoders from a length function and a parser. There finality is
asked of the length function only (`Settled`). One that looks at the stream through indexed
reads and answers "not yet" when a read is past the end has it by construction, and if all the
reads are below some bound it answers as soon as that many elements are there
(`SettledWithin`). The rules for `SettledWithin` follow the text of such a function.
-/

namespace Stream

variable {β φ ε α : Type}

/-- A decoding function: the answer and the buffer afterwards. -/
abbrev Decode (β φ ε : Type) := List β → Except ε (Option φ) × List β

/-- A decoding function whose answers are final. -/
structure Decoder (β φ ε : Type) where
  decode : Decode β φ ε
  nil : decode [] = (.ok none, [])
  /-- Without an answer the buffer stays as it is. -/
  keeps_none : ∀ src rest, decode src = (.ok none, rest) → rest = src
  keeps_error : ∀ src e rest, decode src = (.error e, rest) → rest = src
  /-- A frame is taken off the buffer. -/
  consumes : ∀ src f rest, decode src = (.ok (some f), rest) → rest.length < src.length
  final_frame : ∀ src f rest more, decode src = (.ok (some f), rest) →
    decode (src ++ more) = (.ok (some f), rest ++ more)
  final_error : ∀ src e rest more, decode src = (.error e, rest) →
    decode (src ++ more) = (.error e, src ++ more)

/-- What a reader of the stream has: the frames so far, the first error, and the bytes not
yet consumed. -/
structure Session (β φ ε : Type) where
  frames : List φ
  error : Option ε
  buffer : List β
deriving DecidableEq, Repr

namespace Decoder

variable (D : Decoder β φ ε)

/-- Call the decoder until it returns no frame. -/
def drain (src : List β) : Session β φ ε :=
  match h : D.decode src with
  | (.ok none, rest) => ⟨[], none, rest⟩
  | (.error e, rest) => ⟨[], some e, rest⟩
  | (.ok (some f), rest) =>
    have := D.consumes src f rest h
    let s := drain rest
    { s with frames := f :: s.frames }
termination_by src.length

/-- Append a chunk to the buffer and call the decoder until it returns no frame. -/
def feed (s : Session β φ ε) (chunk : List β) : Session β φ ε :=
  let s' := D.drain (s.buffer ++ chunk)
  { frames := s.frames ++ s'.frames, error := s.error.or s'.error, buffer := s'.buffer }

def feedAll (chunks : List (List β)) : Session β φ ε :=
  chunks.foldl D.feed ⟨[], none, []⟩

variable {src rest : List β}

theorem drain_none (h : D.decode src = (.ok none, rest)) : D.drain src = ⟨[], none, rest⟩ := by
  rw [drain]
  split <;> simp_all

theorem drain_error {e : ε} (h : D.decode src = (.error e, rest)) :
    D.drain src = ⟨[], some e, rest⟩ := by
  rw [drain]
  split <;> simp_all

theorem drain_frame {f : φ} (h : D.decode src = (.ok (some f), rest)) :
    D.drain src = { D.drain rest with frames := f :: (D.drain rest).frames } := by
  rw [drain]
  split <;> simp_all

@[simp] theorem drain_nil : D.drain [] = ⟨[], none, []⟩ := D.drain_none D.nil

/-- One cut. Draining the first part, then what it left together with the second part,
comes to the same as draining both at once. -/
theorem drain_append (src more : List β) : D.drain (src ++ more) = D.feed (D.drain src) more := by
  fun_induction D.drain src with
  | case1 src rest h =>
    obtain rfl := D.keeps_none _ _ h
    simp [feed]
  | case2 src e rest h =>
    -- the decoder repeats its error on the longer buffer
    obtain rfl := D.keeps_error _ _ _ h
    rw [D.drain_error (D.final_error _ _ _ more h)]
    simp [feed, D.drain_error (D.final_error _ _ _ more h)]
  | case3 src f rest h _ s ih =>
    rw [D.drain_frame (D.final_frame _ _ _ more h), ih]
    simp [feed, s]

/-- However a stream is cut into chunks, feeding them one by one gives the frames, the
first error and the leftover bytes of decoding it in one piece. -/
theorem feedAll_eq_drain (chunks : List (List β)) : D.feedAll chunks = D.drain chunks.flatten := by
  suffices h : ∀ src, chunks.foldl D.feed (D.drain src) = D.drain (src ++ chunks.flatten) by
    have h0 := h []
    rwa [drain_nil, List.nil_append] at h0
  induction chunks with
  | nil => simp
  | cons c cs ih =>
    intro src
    rw [List.foldl_cons, ← drain_append, ih, List.flatten_cons, List.append_assoc]

/-- If each frame's bytes are decoded to it whatever follows, a concatenation of such
bytes is decoded to the frames. -/
theorem drain_flatMap {wire : φ → List β} {fs : List φ}
    (h : ∀ f ∈ fs, ∀ rest, D.decode (wire f ++ rest) = (.ok (some f), rest)) (rest : List β) :
    D.drain (fs.flatMap wire ++ rest)
      = { D.drain rest with frames := fs ++ (D.drain rest).frames } := by
  induction fs with
  | nil => simp
  | cons f fs ih =>
    rw [List.flatMap_cons, List.append_assoc, D.drain_frame (h f (by simp) _),
      ih fun g hg => h g (List.mem_cons_of_mem _ hg)]
    simp

end Decoder

/-! ## Decoders that find the length first

Most decoders work in two stages: a look at the front of the buffer gives the length of
the frame, and once that many bytes are there they are parsed. Such a decoder is final if
its length function is. -/

/-- An answer given on some bytes is given again when more bytes follow. -/
def Settled (f : List β → Except ε (Option α)) : Prop :=
  ∀ src more, f src ≠ .ok none → f (src ++ more) = f src

/-- Read one element and go on with it; "not yet" past the end. -/
def readAt (src : List β) (i : Nat) (next : β → Except ε (Option α)) : Except ε (Option α) :=
  match src[i]? with
  | none => .ok none
  | some b => next b

/-- Go on with an answer once it is there. -/
def onceKnown {γ : Type} (r : Except ε (Option γ)) (next : γ → Except ε (Option α)) :
    Except ε (Option α) :=
  match r with
  | .error e => .error e
  | .ok none => .ok none
  | .ok (some a) => next a

/-- A settled function that has its answer once `n` elements are there. -/
structure SettledWithin (n : Nat) (f : List β → Except ε (Option α)) : Prop where
  settled : Settled f
  decides : ∀ src, n ≤ src.length → f src ≠ .ok none

namespace SettledWithin

variable {n : Nat} {γ : Type}

theorem const {r : Except ε (Option α)} (h : r ≠ .ok none) : SettledWithin n fun _ : List β => r :=
  ⟨fun _ _ _ => rfl, fun _ _ => h⟩

theorem readAt {i : Nat} (hi : i < n) {g : β → List β → Except ε (Option α)}
    (hg : ∀ b, SettledWithin n (g b)) :
    SettledWithin n fun src => Stream.readAt src i fun b => g b src := by
  unfold Stream.readAt
  refine ⟨fun src more h => ?_, fun src hlen => ?_⟩
  · cases hb : src[i]? with
    | none => simp [hb] at h
    | some b =>
      have hlt : i < src.length := (List.getElem?_eq_some_iff.mp hb).1
      simp only [hb] at h ⊢
      rw [List.getElem?_append_left hlt, hb]
      exact (hg b).settled src more h
  · have hlt : i < src.length := Nat.lt_of_lt_of_le hi hlen
    simp only [List.getElem?_eq_getElem hlt]
    exact (hg _).decides src hlen

/-- A check of what has been read. -/
theorem check {x : Except ε γ} {g : List β → Except ε (Option α)}
    (hg : ∀ a, x = .ok a → SettledWithin n g) :
    SettledWithin n fun src => x >>= fun _ => g src := by
  cases x with
  | error e => exact const nofun
  | ok a => exact hg a rfl

theorem ite {c : Prop} [Decidable c] {f g : List β → Except ε (Option α)}
    (hf : SettledWithin n f) (hg : SettledWithin n g) :
    SettledWithin n fun src => if c then f src else g src := by
  by_cases hc : c
  · simpa only [if_pos hc] using hf
  · simpa only [if_neg hc] using hg

theorem onceKnown {f : List β → Except ε (Option γ)} {g : γ → Except ε (Option α)}
    (hf : SettledWithin n f) (hg : ∀ a, g a ≠ .ok none) :
    SettledWithin n fun src => Stream.onceKnown (f src) g := by
  refine ⟨fun src more h => ?_, fun src hlen => ?_⟩
  · have hsrc : f src ≠ .ok none := by
      intro hnone
      rw [hnone] at h
      exact h rfl
    simp only [hf.settled src more hsrc]
  · have hsrc := hf.decides src hlen
    rcases hfs : f src with e | _ | a
    · exact nofun
    · exact absurd hfs hsrc
    · exact hg a

end SettledWithin

/-- Decode with a length function and a parser of complete frames. -/
def lengthDecode (len : List β → Except ε (Option Nat)) (parse : List β → Except ε φ) :
    Decode β φ ε := fun src =>
  match len src with
  | .error e => (.error e, src)
  | .ok none => (.ok none, src)
  | .ok (some n) =>
    if src.length < n then (.ok none, src)
    else
      match parse (src.take n) with
      | .error e => (.error e, src)
      | .ok f => (.ok (some f), src.drop n)

section LengthDecode

variable {len : List β → Except ε (Option Nat)} {parse : List β → Except ε φ}

variable {src rest : List β}

theorem lengthDecode_eq_frame {f : φ} :
    lengthDecode len parse src = (.ok (some f), rest) ↔
      ∃ n, len src = .ok (some n) ∧ n ≤ src.length ∧ parse (src.take n) = .ok f ∧
        rest = src.drop n := by
  unfold lengthDecode
  constructor
  · intro h
    split at h
    · cases h
    · cases h
    · next n hn =>
        split at h
        · cases h
        · split at h
          · cases h
          · next hlen g hg =>
              cases h
              exact ⟨n, hn, by omega, hg, rfl⟩
  · rintro ⟨n, hn, hlen, hf, rfl⟩
    simp only [hn, hf, Nat.not_lt.mpr hlen, if_false]

theorem lengthDecode_eq_error {e : ε} :
    lengthDecode len parse src = (.error e, rest) ↔
      rest = src ∧ (len src = .error e ∨
        ∃ n, len src = .ok (some n) ∧ n ≤ src.length ∧ parse (src.take n) = .error e) := by
  unfold lengthDecode
  constructor
  · intro h
    split at h
    · next e' he =>
        cases h
        exact ⟨rfl, Or.inl he⟩
    · cases h
    · next n hn =>
        split at h
        · cases h
        · split at h
          · next hlen e' he =>
              cases h
              exact ⟨rfl, Or.inr ⟨n, hn, by omega, he⟩⟩
          · cases h
  · rintro ⟨rfl, he | ⟨n, hn, hlen, he⟩⟩
    · simp only [he]
    · simp only [hn, he, Nat.not_lt.mpr hlen, if_false]

theorem lengthDecode_none (h : lengthDecode len parse src = (.ok none, rest)) : rest = src := by
  unfold lengthDecode at h
  split at h
  · cases h
  · cases h
    rfl
  · split at h
    · cases h
      rfl
    · split at h <;> cases h

/-- A decoding function that finds the length first is a decoder if the length function
answers finally. -/
def Decoder.ofLength (decode : Decode β φ ε)
    (hdecode : ∀ src, decode src = lengthDecode len parse src)
    (hnil : len [] = .ok none) (hpos : ∀ src n, len src = .ok (some n) → 0 < n)
    (hlen : Settled len) : Decoder β φ ε where
  decode := decode
  nil := by simp [hdecode, lengthDecode, hnil]
  keeps_none := by
    intro src rest h
    rw [hdecode] at h
    exact lengthDecode_none h
  keeps_error := by
    intro src e rest h
    rw [hdecode] at h
    exact (lengthDecode_eq_error.mp h).1
  consumes := by
    intro src f rest h
    rw [hdecode] at h
    obtain ⟨n, hn, hle, -, rfl⟩ := lengthDecode_eq_frame.mp h
    have := hpos src n hn
    rw [List.length_drop]
    omega
  final_frame := by
    intro src f rest more h
    rw [hdecode] at h ⊢
    obtain ⟨n, hn, hle, hf, rfl⟩ := lengthDecode_eq_frame.mp h
    refine lengthDecode_eq_frame.mpr ⟨n, ?_, ?_, ?_, ?_⟩
    · rw [hlen src more (by simp [hn]), hn]
    · rw [List.length_append]
      omega
    · rwa [List.take_append_of_le_length hle]
    · rw [List.drop_append_of_le_length hle]
  final_error := by
    intro src e rest more h
    rw [hdecode] at h ⊢
    refine lengthDecode_eq_error.mpr ⟨rfl, ?_⟩
    rcases (lengthDecode_eq_error.mp h).2 with he | ⟨n, hn, hle, he⟩
    · exact Or.inl (by rw [hlen src more (by simp [he]), he])
    · refine Or.inr ⟨n, ?_, ?_, ?_⟩
      · rw [hlen src more (by simp [hn]), hn]
      · rw [List.length_append]
        omega
      · rwa [List.take_append_of_le_length hle]

end LengthDecode

end Stream
