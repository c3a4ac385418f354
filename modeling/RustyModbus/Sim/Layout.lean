import RustyModbus.Sim.Config

/-!
# What the layout check accepts

The check goes through the blocks of a table once, with a bitmap of the addresses taken so far. The
invariant of the loop is that the bitmap holds the addresses of the blocks that have passed; with it
the check accepts a list exactly if every block fits and no two blocks share an address (`Laid`),
and an address found in the bitmap does belong to an earlier block.

The builder writes the initial values one by one. For a list that has been accepted no value is
written twice, so the result is the table with the values laid over it, and the order of the blocks
does not matter.
-/

namespace RustyModbus.Sim

open Wire Server

/-! ## Layouts -/

/-- What is common to the blocks of registers and of coils. -/
structure Block (α : Type) where
  address : UInt16
  count : UInt16
  initial : List α

def RegisterBlock.block (b : RegisterBlock) : Block UInt16 := ⟨b.address, b.count, b.initial⟩

def CoilBlock.block (b : CoilBlock) : Block Bool := ⟨b.address, b.count, b.initial⟩

namespace Block

variable {α : Type}

def Covers (b : Block α) (i : Nat) : Prop :=
  b.address.toNat ≤ i ∧ i < b.address.toNat + b.count.toNat

structure Fits (b : Block α) : Prop where
  count_pos : 1 ≤ b.count.toNat
  last_le : b.address.toNat + b.count.toNat - 1 ≤ 65535
  initial_le : b.initial.length ≤ b.count.toNat

def Disjoint (b b' : Block α) : Prop := ∀ i, ¬(b.Covers i ∧ b'.Covers i)

/-- The initial value a block has for an address. -/
def value? (b : Block α) (i : Nat) : Option α :=
  if b.address.toNat ≤ i then b.initial[i - b.address.toNat]? else none

theorem Fits.covers {b : Block α} (h : b.Fits) {i : Nat} {v : α} (hv : b.value? i = some v) :
    b.Covers i := by
  rw [value?] at hv
  split at hv
  next hle =>
    have hlt := (List.getElem?_eq_some_iff.mp hv).1
    have hlen := h.initial_le
    exact ⟨hle, by omega⟩
  next => cases hv

end Block

/-- Blocks that fit into the address space and share no address. -/
structure Laid {α : Type} (blocks : List (Block α)) : Prop where
  fits : ∀ b ∈ blocks, b.Fits
  disjoint : blocks.Pairwise Block.Disjoint

/-- The initial values laid over a table of `zero`s. -/
def overlay {α : Type} (zero : α) (blocks : List (Block α)) (i : Nat) : α :=
  (blocks.findSome? fun b => b.value? i).getD zero

/-! ## The check -/

section Check

variable {α β : Type} {view : β → Block α} {fields : β → UInt16 × UInt16 × Nat}
  (hview : ∀ b, fields b = ((view b).address, (view b).count, (view b).initial.length))
  (table : String)

/-- The blocks are laid out, also beside those that have passed before. -/
structure LaidAfter (view : β → Block α) (previous blocks : List β) : Prop where
  fits : ∀ b ∈ blocks, (view b).Fits
  apart : ∀ p ∈ previous, ∀ b ∈ blocks, (view p).Disjoint (view b)
  disjoint : blocks.Pairwise fun b b' => (view b).Disjoint (view b')

/-- A block that fits and is apart from the previous ones becomes one of them. -/
theorem laidAfter_cons {previous rest : List β} {block : β} (hfits : (view block).Fits)
    (hfree : ∀ p ∈ previous, (view p).Disjoint (view block)) :
    LaidAfter view previous (block :: rest) ↔ LaidAfter view (previous ++ [block]) rest := by
  constructor
  · rintro ⟨hall, hapart, hpairwise⟩
    obtain ⟨hblock, hrest⟩ := List.pairwise_cons.mp hpairwise
    refine ⟨fun b hb => hall b (List.mem_cons_of_mem _ hb), fun p hp b hb => ?_, hrest⟩
    rcases List.mem_append.mp hp with hp | hp
    · exact hapart p hp b (List.mem_cons_of_mem _ hb)
    · rw [List.mem_singleton.mp hp]
      exact hblock b hb
  · rintro ⟨hall, hapart, hpairwise⟩
    refine ⟨List.forall_mem_cons.mpr ⟨hfits, hall⟩, fun p hp => ?_, List.pairwise_cons.mpr
      ⟨hapart block (List.mem_append_right _ List.mem_cons_self), hpairwise⟩⟩
    exact List.forall_mem_cons.mpr ⟨hfree p hp, hapart p (List.mem_append_left _ hp)⟩

include hview in
/-- An address of a block that has passed is found again. -/
theorem findPrevious_isSome {previous : List β} {i : Nat}
    (h : ∃ p ∈ previous, (view p).Covers i) : ∃ found, findPrevious fields previous i = some found := by
  obtain ⟨p, hp, hle, hlt⟩ := h
  obtain ⟨k, hk⟩ := List.mem_iff_getElem?.mp hp
  refine Option.isSome_iff_exists.mp
    (List.findSome?_isSome_iff.mpr ⟨(p, k), List.mem_zipIdx_iff_getElem?.mpr hk, ?_⟩)
  dsimp only
  rw [hview]
  dsimp only
  rw [if_pos ⟨hle, by omega⟩]
  rfl

theorem toNat_pred {count : UInt16} (h : count ≠ 0) :
    1 ≤ count.toNat ∧ (count - 1).toNat = count.toNat - 1 := by
  have hpos : 1 ≤ count.toNat := Nat.one_le_iff_ne_zero.mpr fun h0 => h (UInt16.toNat_inj.mp h0)
  exact ⟨hpos, UInt16.toNat_sub_of_le count 1 (UInt16.le_iff_toNat_le.mpr hpos)⟩

theorem validateBlock_cases (index : Nat) (b : Block α) :
    (validateBlock table index b.address b.count b.initial.length = .ok () ∧ b.Fits) ∨
      (∃ message, validateBlock table index b.address b.count b.initial.length
        = .error (.config message)) ∧ ¬b.Fits := by
  rw [validateBlock]
  by_cases hzero : b.count = 0
  · rw [rejectIf_pos hzero]
    refine .inr ⟨⟨_, rfl⟩, fun h => absurd h.count_pos ?_⟩
    rw [hzero]
    decide
  obtain ⟨hpos, hpred⟩ := toNat_pred hzero
  rw [rejectIf_neg hzero, hpred]
  by_cases hspace : b.address.toNat + (b.count.toNat - 1) < 65536
  case neg =>
    rw [rejectIf_pos hspace]
    refine .inr ⟨⟨_, rfl⟩, fun h => ?_⟩
    have hlast := h.last_le
    omega
  rw [rejectIf_neg (not_not_intro hspace)]
  by_cases hinitial : b.initial.length > b.count.toNat
  · rw [rejectIf_pos hinitial]
    exact .inr ⟨⟨_, rfl⟩, fun h => absurd h.initial_le (Nat.not_le.mpr hinitial)⟩
  · rw [rejectIf_neg hinitial]
    exact .inl ⟨rfl, hpos, by omega, Nat.not_lt.mp hinitial⟩

/-- The addresses of a block as the loop runs through them. -/
def Block.addresses (b : Block α) : List Nat :=
  List.range' b.address.toNat (b.address.toNat + b.count.toNat - 1 + 1 - b.address.toNat)

theorem Block.Fits.mem_addresses {b : Block α} (h : b.Fits) {i : Nat} :
    i ∈ b.addresses ↔ b.Covers i := by
  have hpos := h.count_pos
  rw [Block.addresses, List.mem_range'_1, Block.Covers]
  omega

theorem Block.Fits.addresses_small {b : Block α} (h : b.Fits) : ∀ i ∈ b.addresses, i / 64 < 1024 := by
  intro i hi
  have hlast := h.last_le
  have hcovers : i < b.address.toNat + b.count.toNat := (h.mem_addresses.mp hi).2
  omega

include hview in
theorem validateBlocks_cases (blocks : List β) {previous : List β} {occupied : Bitmap 1024}
    (hoccupied : ∀ i, occupied.has i = true ↔ ∃ p ∈ previous, (view p).Covers i) :
    (validateBlocks table fields previous occupied blocks = .ok () ∧
        LaidAfter view previous blocks) ∨
      (∃ message, validateBlocks table fields previous occupied blocks
          = .error (.error (.config message))) ∧ ¬LaidAfter view previous blocks := by
  induction blocks generalizing previous occupied with
  | nil => exact .inl ⟨rfl, nofun, nofun, .nil⟩
  | cons block rest ih =>
    rw [validateBlocks, hview]
    dsimp only
    obtain ⟨hblock, hfits⟩ | ⟨⟨message, hblock⟩, hno⟩ :=
      validateBlock_cases table previous.length (view block)
    case inr =>
      rw [hblock]
      exact .inr ⟨⟨message, rfl⟩, fun h => hno (h.fits block List.mem_cons_self)⟩
    rw [hblock, ← Block.addresses,
      Bitmap.find_eq_ok (b := occupied) (ε := SimError) hfits.addresses_small]
    cases hoverlap : (view block).addresses.find? occupied.has with
    | some overlap =>
      -- an address shared with a block that has passed, and that block is found
      obtain ⟨p, hp, hcovers⟩ := (hoccupied overlap).mp (List.find?_some hoverlap)
      obtain ⟨found, hfound⟩ := findPrevious_isSome hview ⟨p, hp, hcovers⟩
      dsimp only [Fault.lift, Except.mapError, bind, Except.bind]
      rw [hfound]
      refine .inr ⟨⟨_, rfl⟩, fun h => h.apart p hp block List.mem_cons_self overlap ⟨hcovers, ?_⟩⟩
      exact hfits.mem_addresses.mp (List.mem_of_find?_eq_some hoverlap)
    | none =>
      obtain ⟨occupied', hmark, hoccupied'⟩ :=
        Bitmap.markAll_eq_ok (b := occupied) (ε := SimError) hfits.addresses_small
      have hinvariant : ∀ i, occupied'.has i = true ↔
          ∃ p ∈ previous ++ [block], (view p).Covers i := by
        intro i
        simp only [hoccupied', hoccupied, hfits.mem_addresses, List.mem_append,
          List.mem_singleton, or_and_right, exists_or, exists_eq_left]
      have hfree : ∀ p ∈ previous, (view p).Disjoint (view block) := by
        rintro p hp i ⟨hcovers, hblockCovers⟩
        exact List.find?_eq_none.mp hoverlap i (hfits.mem_addresses.mpr hblockCovers)
          ((hoccupied i).mpr ⟨p, hp, hcovers⟩)
      rw [laidAfter_cons hfits hfree]
      dsimp only [Fault.lift, Except.mapError, bind, Except.bind]
      rw [hmark]
      exact ih hinvariant

theorem laidAfter_nil {blocks : List β} : LaidAfter view [] blocks ↔ Laid (blocks.map view) := by
  constructor
  · rintro ⟨hfits, -, hpairwise⟩
    exact ⟨List.forall_mem_map.mpr hfits, List.pairwise_map.mpr hpairwise⟩
  · rintro ⟨hfits, hpairwise⟩
    exact ⟨List.forall_mem_map.mp hfits, nofun, List.pairwise_map.mp hpairwise⟩

include hview in
/-- The check accepts what is laid out, and refuses everything else with a message. -/
theorem validateBlockLayout_cases (blocks : List β) :
    (validateBlockLayout table fields blocks = .ok () ∧ Laid (blocks.map view)) ∨
      (∃ message, validateBlockLayout table fields blocks = .error (.error (.config message))) ∧
        ¬Laid (blocks.map view) := by
  rw [← laidAfter_nil]
  refine validateBlocks_cases hview table blocks fun i => ?_
  rw [Bitmap.has_empty]
  exact ⟨nofun, fun ⟨_, hp, _⟩ => nomatch hp⟩

end Check

/-! ## The builder -/

section Apply

variable {α σ ρ : Type}

/-- A setter of the cells of a table: it never fails, writes one cell, and what is beside the table
stays as it is. -/
structure Puts (set : UInt16 → α → σ → Except (Fault SimError) σ) (cell : σ → Nat → α)
    (frame : σ → ρ) : Prop where
  set_eq : ∀ address value s, ∃ s', set address value s = .ok s' ∧
    (∀ i, cell s' i = if i = address.toNat then value else cell s i) ∧ frame s' = frame s
  ext : ∀ s s', (∀ i, cell s i = cell s' i) → frame s = frame s' → s = s'

theorem offsetAddress_eq {address : UInt16} {offset : Nat} (h : address.toNat + offset < 65536) :
    ∃ a, offsetAddress address offset = some a ∧ a.toNat = address.toNat + offset := by
  have hoffset : (UInt16.ofNat offset).toNat = offset :=
    UInt16.toNat_ofNat_of_lt' (show offset < 65536 by omega)
  refine ⟨address + UInt16.ofNat offset, ?_, ?_⟩
  · rw [offsetAddress, if_pos (by omega)]
    dsimp only
    rw [hoffset, if_pos h]
  · rw [UInt16.toNat_add, hoffset]
    exact Nat.mod_eq_of_lt h

variable {set : UInt16 → α → σ → Except (Fault SimError) σ} {cell : σ → Nat → α} {frame : σ → ρ}

/-- The values of a block from number `k` on. -/
theorem Puts.apply_from (h : Puts set cell frame) {address count : UInt16}
    (hspace : address.toNat + count.toNat ≤ 65536) {values : List α} {k : Nat}
    (hvalues : k + values.length ≤ count.toNat) (s : σ) :
    ∃ s', (values.zipIdx k).foldlM (fun s (val, i) =>
        if i < count.toNat then
          match offsetAddress address i with
          | some address => set address val s
          | none => .ok s
        else .ok s) s = .ok s' ∧
      (∀ i, cell s' i = (if address.toNat + k ≤ i then values[i - (address.toNat + k)]?
        else none).getD (cell s i)) ∧ frame s' = frame s := by
  induction values generalizing k s with
  | nil => exact ⟨s, rfl, fun i => by simp, rfl⟩
  | cons value values ih =>
    rw [List.length_cons] at hvalues
    obtain ⟨a, ha, htoNat⟩ := @offsetAddress_eq address k (by omega)
    obtain ⟨s₁, hset, hcell, hframe⟩ := h.set_eq a value s
    obtain ⟨s', hrun, hcell', hframe'⟩ := @ih (k + 1) (by omega) s₁
    refine ⟨s', ?_, fun i => ?_, hframe'.trans hframe⟩
    · rw [List.zipIdx_cons, List.foldlM_cons]
      dsimp only
      rw [if_pos (by omega), ha]
      dsimp only
      rw [hset]
      exact hrun
    · rw [hcell', hcell, htoNat]
      rcases Nat.lt_trichotomy i (address.toNat + k) with hi | hi | hi
      · rw [if_neg (by omega), if_neg (by omega), if_neg (by omega)]
      · rw [if_neg (by omega), if_pos hi, if_pos (by omega), hi, Nat.sub_self]
        rfl
      · have hsub : i - (address.toNat + k) = i - (address.toNat + (k + 1)) + 1 := by omega
        rw [if_pos (by omega), if_neg (by omega), if_pos (by omega), hsub, List.getElem?_cons_succ]

theorem Puts.apply_block (h : Puts set cell frame) {b : Block α} (hfits : b.Fits) (s : σ) :
    ∃ s', applyBlock set b.address b.count b.initial s = .ok s' ∧
      (∀ i, cell s' i = (b.value? i).getD (cell s i)) ∧ frame s' = frame s := by
  have hpos := hfits.count_pos
  have hlast := hfits.last_le
  have hinitial := hfits.initial_le
  exact h.apply_from (by omega) (k := 0) (by omega) s

/-- Of blocks that are laid out at most one has a value for an address. -/
theorem Laid.findSome?_eq_some {blocks : List (Block α)} (h : Laid blocks) {i : Nat} {v : α} :
    (blocks.findSome? fun b => b.value? i) = some v ↔ ∃ b ∈ blocks, b.value? i = some v := by
  induction blocks with
  | nil => exact ⟨nofun, nofun⟩
  | cons b blocks ih =>
    obtain ⟨hb, hdisjoint⟩ := List.pairwise_cons.mp h.disjoint
    obtain ⟨hfits, hall⟩ := List.forall_mem_cons.mp h.fits
    have hrest := ih ⟨hall, hdisjoint⟩
    rw [List.findSome?_cons]
    cases hvalue : b.value? i with
    | none =>
      constructor
      · intro hv
        obtain ⟨b', hb', hv⟩ := hrest.mp hv
        exact ⟨b', List.mem_cons_of_mem b hb', hv⟩
      · rintro ⟨b', hb', hv⟩
        rcases List.mem_cons.mp hb' with rfl | hb'
        · rw [hvalue] at hv
          cases hv
        · exact hrest.mpr ⟨b', hb', hv⟩
    | some w =>
      refine ⟨fun hw => ⟨b, List.mem_cons_self, hvalue.trans hw⟩, ?_⟩
      rintro ⟨b', hb', hv⟩
      rcases List.mem_cons.mp hb' with rfl | hb'
      · exact hvalue.symm.trans hv
      · exact absurd ⟨hfits.covers hvalue, (hall b' hb').covers hv⟩ (hb b' hb' i)

theorem overlay_cons {b : Block α} {blocks : List (Block α)} (h : Laid (b :: blocks)) (x : α)
    (i : Nat) : overlay x (b :: blocks) i = overlay ((b.value? i).getD x) blocks i := by
  obtain ⟨hb, hdisjoint⟩ := List.pairwise_cons.mp h.disjoint
  obtain ⟨hfits, hall⟩ := List.forall_mem_cons.mp h.fits
  rw [overlay, overlay, List.findSome?_cons]
  cases hvalue : b.value? i with
  | none => rfl
  | some v =>
    have hnone : (blocks.findSome? fun b => b.value? i) = none := by
      refine List.findSome?_eq_none_iff.mpr fun b' hb' => ?_
      cases hv : b'.value? i with
      | none => rfl
      | some w => exact absurd ⟨hfits.covers hvalue, (hall b' hb').covers hv⟩ (hb b' hb' i)
    rw [hnone]
    rfl

/-- The blocks one after the other leave the table with their values over it. -/
theorem Puts.apply_blocks (h : Puts set cell frame) {blocks : List (Block α)} (hlaid : Laid blocks)
    (s : σ) :
    ∃ s', blocks.foldlM (fun s b => applyBlock set b.address b.count b.initial s) s = .ok s' ∧
      (∀ i, cell s' i = overlay (cell s i) blocks i) ∧ frame s' = frame s := by
  induction blocks generalizing s with
  | nil => exact ⟨s, rfl, fun _ => rfl, rfl⟩
  | cons b blocks ih =>
    obtain ⟨hfits, hall⟩ := List.forall_mem_cons.mp hlaid.fits
    obtain ⟨s₁, hrun₁, hcell₁, hframe₁⟩ := h.apply_block hfits s
    obtain ⟨s', hrun, hcell, hframe⟩ := ih ⟨hall, hlaid.disjoint.of_cons⟩ s₁
    refine ⟨s', ?_, fun i => ?_, hframe.trans hframe₁⟩
    · rw [List.foldlM_cons, hrun₁]
      exact hrun
    · rw [hcell, hcell₁, overlay_cons hlaid]

theorem Block.Disjoint.symm {b b' : Block α} (h : b.Disjoint b') : b'.Disjoint b :=
  fun i hi => h i hi.symm

variable {blocks blocks' : List (Block α)}

theorem Laid.perm (h : Laid blocks) (hperm : blocks'.Perm blocks) : Laid blocks' :=
  ⟨fun b hb => h.fits b (hperm.mem_iff.mp hb),
    (hperm.pairwise_iff Block.Disjoint.symm).mpr h.disjoint⟩

theorem Laid.overlay_perm (h : Laid blocks) (hperm : blocks'.Perm blocks) (x : α) (i : Nat) :
    overlay x blocks' i = overlay x blocks i := by
  rw [overlay, overlay]
  congr 1
  refine Option.ext fun v => ?_
  rw [h.findSome?_eq_some, (h.perm hperm).findSome?_eq_some]
  exact exists_congr fun b => and_congr_left' hperm.mem_iff

/-- The order of the blocks does not matter. -/
theorem Puts.apply_perm (h : Puts set cell frame) (hlaid : Laid blocks)
    (hperm : blocks'.Perm blocks) (s : σ) :
    blocks'.foldlM (fun s b => applyBlock set b.address b.count b.initial s) s =
      blocks.foldlM (fun s b => applyBlock set b.address b.count b.initial s) s := by
  obtain ⟨s₁, hrun₁, hcell₁, hframe₁⟩ := h.apply_blocks hlaid s
  obtain ⟨s₂, hrun₂, hcell₂, hframe₂⟩ := h.apply_blocks (hlaid.perm hperm) s
  rw [hrun₁, hrun₂, h.ext s₂ s₁ (fun i => ?_) (hframe₂.trans hframe₁.symm)]
  rw [hcell₂, hcell₁, hlaid.overlay_perm hperm]

end Apply

section

variable {σ : Type}

theorem applyRegisterBlocks_eq (blocks : List RegisterBlock)
    (set : UInt16 → UInt16 → σ → Except (Fault SimError) σ) (s : σ) :
    applyRegisterBlocks blocks set s = (blocks.map RegisterBlock.block).foldlM
      (fun s b => applyBlock set b.address b.count b.initial s) s := by
  rw [List.foldlM_map]
  rfl

theorem applyCoilBlocks_eq (blocks : List CoilBlock)
    (set : UInt16 → Bool → σ → Except (Fault SimError) σ) (s : σ) :
    applyCoilBlocks blocks set s = (blocks.map CoilBlock.block).foldlM
      (fun s b => applyBlock set b.address b.count b.initial s) s := by
  rw [List.foldlM_map]
  rfl

end

/-! ## The tables of the store -/

/-- The default tables have a place for every address. -/
theorem address_lt_default (address : UInt16) : address.toNat < 65536 := address.toNat_lt

theorem checkSetupAddress_bind {γ : Type} {table : String} {address : UInt16} {len : Nat}
    (h : address.toNat < len) (f : PLift (address.toNat < len) → Except StoreError γ) :
    (InMemoryStore.checkSetupAddress table address len >>= f) = f ⟨h⟩ := by
  rw [InMemoryStore.checkSetupAddress, dif_pos h]
  rfl

/-- A table as a part of the store. -/
structure IsTable {τ : Type} (get : Store → τ) (put : τ → Store → Store) : Prop where
  get_put : ∀ t s, get (put t s) = t
  put_get : ∀ s, put (get s) s = s
  put_put : ∀ t t' s, put t (put t' s) = put t s

section Tables

variable {α τ : Type} {get : Store → τ} {put : τ → Store → Store}

/-- Writing the cells of a table writes them in the store, beside which nothing changes. -/
theorem IsTable.puts (h : IsTable get put) {blank : τ} (cell : τ → Nat → α)
    (write : UInt16 → α → τ → τ) {set : UInt16 → α → Store → Except (Fault SimError) Store}
    (hset : ∀ address value s, set address value s = .ok (put (write address value (get s)) s))
    (hcell : ∀ address value t i,
      cell (write address value t) i = if i = address.toNat then value else cell t i)
    (hext : ∀ t t', (∀ i, cell t i = cell t' i) → t = t') :
    Puts set (fun s => cell (get s)) (put blank) := by
  refine ⟨fun address value s => ⟨_, hset address value s, fun i => ?_, h.put_put _ _ _⟩,
    fun s s' hcells hframe => ?_⟩
  · rw [h.get_put, hcell]
  · rw [← h.put_get s, ← h.put_get s', hext _ _ hcells, ← h.put_put _ blank s, hframe, h.put_put]

theorem IsTable.puts_registers {n : Nat} {get : Store → Vector UInt16 n}
    {put : Vector UInt16 n → Store → Store} (h : IsTable get put)
    (hn : ∀ address : UInt16, address.toNat < n)
    {set : UInt16 → UInt16 → Store → Except (Fault SimError) Store}
    (hset : ∀ address value s, set address value s =
      .ok (put ((get s).set address.toNat value (hn address)) s)) :
    Puts set (fun s i => (get s)[i]?.getD 0) (put (Vector.replicate _ 0)) := by
  refine h.puts (fun t i => t[i]?.getD 0)
    (fun address value t => t.set address.toNat value (hn address)) hset
    (fun address value t i => ?_) fun t t' hcells => ?_
  · rw [Vector.getElem?_set]
    by_cases hi : i = address.toNat
    · rw [if_pos hi.symm, if_pos hi]
      rfl
    · rw [if_neg fun h => hi h.symm, if_neg hi]
  · refine Vector.ext fun i hi => ?_
    have hi' := hcells i
    rwa [Vector.getElem?_eq_getElem hi, Vector.getElem?_eq_getElem hi] at hi'

theorem IsTable.puts_bits {n : Nat} {get : Store → BitTable n} {put : BitTable n → Store → Store}
    (h : IsTable get put) (hn : ∀ address : UInt16, address.toNat < n)
    {set : UInt16 → Bool → Store → Except (Fault SimError) Store}
    (hset : ∀ address value s, set address value s =
      .ok (put ((get s).set address.toNat (hn address) value) s)) :
    Puts set (fun s => (get s).bit) (put (BitTable.new _)) := by
  refine h.puts BitTable.bit
    (fun address value t => t.set address.toNat (hn address) value) hset
    (fun address value t i => ?_) fun t t' hcells => BitTable.ext_bit hcells
  rw [BitTable.bit_set]

end Tables

theorem puts_holding :
    Puts (fun address value (s : Store) => expectOk (s.setHoldingRegister address value))
      (fun s i => s.holdingRegisters[i]?.getD 0)
      (fun s => { s with holdingRegisters := Vector.replicate _ 0 }) := by
  have htable : IsTable (fun s : Store => s.holdingRegisters)
      (fun t s => { s with holdingRegisters := t }) :=
    ⟨fun _ _ => rfl, fun _ => rfl, fun _ _ _ => rfl⟩
  refine htable.puts_registers address_lt_default fun address value s => ?_
  exact congrArg expectOk (checkSetupAddress_bind (address_lt_default address) _)

theorem puts_input :
    Puts (fun address value (s : Store) => expectOk (s.setInputRegister address value))
      (fun s i => s.inputRegisters[i]?.getD 0)
      (fun s => { s with inputRegisters := Vector.replicate _ 0 }) := by
  have htable : IsTable (fun s : Store => s.inputRegisters)
      (fun t s => { s with inputRegisters := t }) :=
    ⟨fun _ _ => rfl, fun _ => rfl, fun _ _ _ => rfl⟩
  refine htable.puts_registers address_lt_default fun address value s => ?_
  exact congrArg expectOk (checkSetupAddress_bind (address_lt_default address) _)

theorem puts_coils :
    Puts (fun address value (s : Store) => expectOk (s.setCoil address value))
      (fun s => s.coils.bit) (fun s => { s with coils := BitTable.new _ }) := by
  have htable : IsTable (fun s : Store => s.coils) (fun t s => { s with coils := t }) :=
    ⟨fun _ _ => rfl, fun _ => rfl, fun _ _ _ => rfl⟩
  refine htable.puts_bits address_lt_default fun address value s => ?_
  exact congrArg expectOk (checkSetupAddress_bind (address_lt_default address) _)

theorem puts_discreteInputs :
    Puts (fun address value (s : Store) => expectOk (s.setDiscreteInput address value))
      (fun s => s.discreteInputs.bit) (fun s => { s with discreteInputs := BitTable.new _ }) := by
  have htable : IsTable (fun s : Store => s.discreteInputs)
      (fun t s => { s with discreteInputs := t }) :=
    ⟨fun _ _ => rfl, fun _ => rfl, fun _ _ _ => rfl⟩
  refine htable.puts_bits address_lt_default fun address value s => ?_
  exact congrArg expectOk (checkSetupAddress_bind (address_lt_default address) _)

/-! ## The theorem -/

/-- What the simulator makes of the blocks of one table. -/
structure TableLayout {α β : Type} (view : β → Block α) (fields : β → UInt16 × UInt16 × Nat)
    (apply : List β → Store → Except (Fault SimError) Store) (cell : Store → Nat → α)
    (blocks : List β) : Prop where
  /-- The check accepts the blocks exactly if they are laid out. -/
  accepted : ∀ table, validateBlockLayout table fields blocks = .ok () ↔ Laid (blocks.map view)
  /-- No list of blocks makes the check panic. -/
  checked : ∀ table, validateBlockLayout table fields blocks ≠ .error .panic
  /-- Accepted blocks are applied without a panic, and leave their values over the table. -/
  overlaid : Laid (blocks.map view) → ∀ s, ∃ s', apply blocks s = .ok s' ∧
    ∀ i, cell s' i = overlay (cell s i) (blocks.map view) i
  /-- In another order they are accepted, too, and leave the same store. -/
  permuted : Laid (blocks.map view) → ∀ blocks', blocks'.Perm blocks →
    Laid (blocks'.map view) ∧ ∀ s, apply blocks' s = apply blocks s

theorem Puts.tableLayout {α β ρ : Type} {view : β → Block α} {fields : β → UInt16 × UInt16 × Nat}
    (hview : ∀ b, fields b = ((view b).address, (view b).count, (view b).initial.length))
    {set : UInt16 → α → Store → Except (Fault SimError) Store} {cell : Store → Nat → α}
    {frame : Store → ρ} (h : Puts set cell frame)
    {apply : List β → Store → Except (Fault SimError) Store}
    (happly : ∀ blocks s, apply blocks s = (blocks.map view).foldlM
      (fun s b => applyBlock set b.address b.count b.initial s) s) (blocks : List β) :
    TableLayout view fields apply cell blocks := by
  have hcases := fun table => validateBlockLayout_cases hview table blocks
  refine ⟨fun table => ?_, fun table => ?_, fun hlaid s => ?_, fun hlaid blocks' hperm => ?_⟩
  · obtain ⟨hok, hlaid⟩ | ⟨⟨message, herror⟩, hno⟩ := hcases table
    · exact iff_of_true hok hlaid
    · rw [herror]
      exact iff_of_false nofun hno
  · obtain ⟨hok, -⟩ | ⟨⟨message, herror⟩, -⟩ := hcases table
    · rw [hok]
      nofun
    · rw [herror]
      nofun
  · obtain ⟨s', hrun, hcell, -⟩ := h.apply_blocks hlaid s
    exact ⟨s', (happly blocks s).trans hrun, hcell⟩
  · have hperm' := hperm.map view
    refine ⟨hlaid.perm hperm', fun s => ?_⟩
    rw [happly, happly, h.apply_perm hlaid hperm']

/-- A store with the initial values of a configuration, and zeros where it has none. -/
structure Overlaid (config : RegisterConfig) (s : Store) : Prop where
  holding : ∀ i : Nat,
    s.holdingRegisters[i]?.getD 0 = overlay 0 (config.holding.map RegisterBlock.block) i
  input : ∀ i : Nat, s.inputRegisters[i]?.getD 0 = overlay 0 (config.input.map RegisterBlock.block) i
  coils : ∀ i, s.coils.bit i = overlay false (config.coils.map CoilBlock.block) i
  discreteInputs : ∀ i,
    s.discreteInputs.bit i = overlay false (config.discreteInputs.map CoilBlock.block) i

/-- A new store has zeros everywhere. -/
theorem tryNew_default : ∃ s : Store, InMemoryStore.tryNew StoreConfig.default = .ok s ∧
    (∀ i : Nat, s.holdingRegisters[i]?.getD 0 = 0) ∧
    (∀ i : Nat, s.inputRegisters[i]?.getD 0 = 0) ∧
    (∀ i, s.coils.bit i = false) ∧ ∀ i, s.discreteInputs.bit i = false := by
  have hregisters : ∀ i : Nat, (Vector.replicate 65536 (0 : UInt16))[i]?.getD 0 = 0 := by
    intro i
    rw [Vector.getElem?_replicate]
    split <;> rfl
  have hbits : ∀ i, (BitTable.new 65536).bit i = false := by
    intro i
    rw [BitTable.bit, BitTable.new, Vector.toList_replicate, bitAt_replicate_zero]
  exact ⟨_, rfl, hregisters, hregisters, hbits, hbits⟩

theorem laid_of_validateBlockLayout {α β : Type} (view : β → Block α)
    {fields : β → UInt16 × UInt16 × Nat}
    (hview : ∀ b, fields b = ((view b).address, (view b).count, (view b).initial.length))
    {table : String} {blocks : List β} (h : validateBlockLayout table fields blocks = .ok ()) :
    Laid (blocks.map view) := by
  obtain ⟨-, hlaid⟩ | ⟨⟨message, herror⟩, -⟩ := validateBlockLayout_cases hview table blocks
  · exact hlaid
  · rw [herror] at h
    cases h

/-- The store of an accepted configuration. -/
theorem fromRegisters_overlaid {config : RegisterConfig}
    (h : validateRegisterConfig config = .ok ()) :
    ∃ s, fromRegisters config = .ok s ∧ Overlaid config s := by
  obtain ⟨s₀, hnew, hzeroHolding, hzeroInput, hzeroCoils, hzeroInputs⟩ := tryNew_default
  have hparts := h
  simp only [validateRegisterConfig, check_bind_eq_ok] at hparts
  obtain ⟨hholding, -, hinput, -, hcoils, hdiscrete⟩ := hparts
  obtain ⟨s₁, hrun₁, hcell₁, hframe₁⟩ := puts_holding.apply_blocks
    (laid_of_validateBlockLayout RegisterBlock.block (fun _ => rfl) hholding) s₀
  obtain ⟨s₂, hrun₂, hcell₂, hframe₂⟩ := puts_input.apply_blocks
    (laid_of_validateBlockLayout RegisterBlock.block (fun _ => rfl) hinput) s₁
  obtain ⟨s₃, hrun₃, hcell₃, hframe₃⟩ := puts_coils.apply_blocks
    (laid_of_validateBlockLayout CoilBlock.block (fun _ => rfl) hcoils) s₂
  obtain ⟨s₄, hrun₄, hcell₄, hframe₄⟩ := puts_discreteInputs.apply_blocks
    (laid_of_validateBlockLayout CoilBlock.block (fun _ => rfl) hdiscrete) s₃
  rw [← applyRegisterBlocks_eq] at hrun₁ hrun₂
  rw [← applyCoilBlocks_eq] at hrun₃ hrun₄
  refine ⟨s₄, ?_, ⟨fun i => ?_, fun i => ?_, fun i => ?_, fun i => ?_⟩⟩
  · rw [fromRegisters, h, hnew]
    show applyRegisterConfig config s₀ = _
    rw [applyRegisterConfig, applyHolding, hrun₁]
    show (applyInput config.input s₁ >>= _) = _
    rw [applyInput, hrun₂]
    show (applyCoils config.coils s₂ >>= _) = _
    rw [applyCoils, hrun₃]
    exact hrun₄
  -- a table keeps its cells while the others are filled
  · have hkept : s₄.holdingRegisters = s₁.holdingRegisters :=
      (congrArg (·.holdingRegisters) hframe₄).trans
        ((congrArg (·.holdingRegisters) hframe₃).trans (congrArg (·.holdingRegisters) hframe₂))
    rw [hkept, hcell₁, hzeroHolding]
  · have hkept : s₄.inputRegisters = s₂.inputRegisters :=
      (congrArg (·.inputRegisters) hframe₄).trans (congrArg (·.inputRegisters) hframe₃)
    have hbefore : s₁.inputRegisters = s₀.inputRegisters := congrArg (·.inputRegisters) hframe₁
    rw [hkept, hcell₂, hbefore, hzeroInput]
  · have hkept : s₄.coils = s₃.coils := congrArg (·.coils) hframe₄
    have hbefore : s₂.coils = s₀.coils :=
      (congrArg (·.coils) hframe₂).trans (congrArg (·.coils) hframe₁)
    rw [hkept, hcell₃, hbefore, hzeroCoils]
  · have hbefore : s₃.discreteInputs = s₀.discreteInputs :=
      (congrArg (·.discreteInputs) hframe₃).trans
        ((congrArg (·.discreteInputs) hframe₂).trans (congrArg (·.discreteInputs) hframe₁))
    rw [hcell₄, hbefore, hzeroInputs]

/-- The four tables of a simulator, and the store that is built from their blocks. -/
structure SimulatorLayout : Prop where
  holding : ∀ blocks, TableLayout RegisterBlock.block RegisterBlock.fields applyHolding
    (fun s i => s.holdingRegisters[i]?.getD 0) blocks
  input : ∀ blocks, TableLayout RegisterBlock.block RegisterBlock.fields applyInput
    (fun s i => s.inputRegisters[i]?.getD 0) blocks
  coils : ∀ blocks, TableLayout CoilBlock.block CoilBlock.fields applyCoils
    (fun s => s.coils.bit) blocks
  discreteInputs : ∀ blocks, TableLayout CoilBlock.block CoilBlock.fields applyDiscreteInputs
    (fun s => s.discreteInputs.bit) blocks
  /-- A configuration that passes its check is built. -/
  built : ∀ config, validateRegisterConfig config = .ok () →
    ∃ s, fromRegisters config = .ok s ∧ Overlaid config s

theorem simulator_layout : SimulatorLayout where
  holding := puts_holding.tableLayout (fun _ => rfl) fun _ _ => applyRegisterBlocks_eq ..
  input := puts_input.tableLayout (fun _ => rfl) fun _ _ => applyRegisterBlocks_eq ..
  coils := puts_coils.tableLayout (fun _ => rfl) fun _ _ => applyCoilBlocks_eq ..
  discreteInputs := puts_discreteInputs.tableLayout (fun _ => rfl) fun _ _ => applyCoilBlocks_eq ..
  built := fun _ => fromRegisters_overlaid

end RustyModbus.Sim
