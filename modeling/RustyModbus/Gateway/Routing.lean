import RustyModbus.Frame.Stream

/-!
# Routes

Which backend a unit is behind. The entries of a table are ranges of unit ids, and a table
with two overlapping ranges is refused when it is built, so a `RouteTable` carries the
proof that there are none. This makes the first entry that matches the only one
(`resolveRoute_eq_some`), and the order of the entries irrelevant (`resolveRoute_of_perm`).
-/

namespace RustyModbus.Gateway

/-- `RangeInclusive<u8>`. A range that ends before it starts is empty. -/
structure UnitIdRange where
  first : UInt8
  last : UInt8
deriving DecidableEq, Repr

def UnitIdRange.contains (r : UnitIdRange) (unitId : UInt8) : Bool :=
  r.first ≤ unitId && unitId ≤ r.last

structure RouteEntry (Addr : Type) where
  unitIdRange : UnitIdRange
  backendAddr : Addr
  rtuOverTcpFramingPolicy : FramingPolicy
deriving DecidableEq, Repr

def rangesOverlap (a b : UnitIdRange) : Bool := a.first ≤ b.last && b.first ≤ a.last

section

variable {Addr : Type}

/-- The loops of `RouteTable::new`: no entry overlaps one behind it. -/
def noOverlap : List (RouteEntry Addr) → Bool
  | [] => true
  | a :: rest => rest.all (fun b => !rangesOverlap a.unitIdRange b.unitIdRange) && noOverlap rest

/-- The two entries are about different units. -/
def Apart (a b : RouteEntry Addr) : Prop := rangesOverlap a.unitIdRange b.unitIdRange = false

theorem noOverlap_eq_true {entries : List (RouteEntry Addr)} :
    noOverlap entries = true ↔ entries.Pairwise Apart := by
  induction entries with
  | nil => exact ⟨fun _ => .nil, fun _ => rfl⟩
  | cons a rest ih =>
    simp only [noOverlap, Bool.and_eq_true, List.all_eq_true, Bool.not_eq_true',
      List.pairwise_cons, ih]
    exact Iff.rfl

end

structure RouteTable (Addr : Type) where
  entries : List (RouteEntry Addr)
  disjoint : entries.Pairwise Apart

namespace RouteTable

variable {Addr : Type}

/-- `RouteTable::new`, where nothing is the panic on overlapping ranges. -/
def new (entries : List (RouteEntry Addr)) : Option (RouteTable Addr) :=
  if h : noOverlap entries then some { entries, disjoint := noOverlap_eq_true.mp h } else none

def resolveRoute (table : RouteTable Addr) (unitId : UInt8) : Option (RouteEntry Addr) :=
  table.entries.find? fun entry => entry.unitIdRange.contains unitId

def resolve (table : RouteTable Addr) (unitId : UInt8) : Option Addr :=
  (table.resolveRoute unitId).map (·.backendAddr)

/-- The addresses of the entries that are not in `seen` yet. -/
def unseenBackends [DecidableEq Addr] : List Addr → List (RouteEntry Addr) → List Addr
  | _, [] => []
  | seen, e :: entries =>
    if e.backendAddr ∈ seen then unseenBackends seen entries
    else e.backendAddr :: unseenBackends (e.backendAddr :: seen) entries

def allBackends [DecidableEq Addr] (table : RouteTable Addr) : List Addr :=
  unseenBackends [] table.entries

variable {table : RouteTable Addr}

theorem new_eq_some {entries : List (RouteEntry Addr)} :
    new entries = some table ↔ entries = table.entries := by
  rw [new]
  constructor
  · intro h
    split at h
    · cases h
      rfl
    · cases h
  · rintro rfl
    rw [dif_pos (noOverlap_eq_true.mpr table.disjoint)]

/-! ## One entry for each unit -/

theorem rangesOverlap_of_contains {a b : UnitIdRange} {unitId : UInt8}
    (ha : a.contains unitId = true) (hb : b.contains unitId = true) :
    rangesOverlap a b = true := by
  simp only [UnitIdRange.contains, Bool.and_eq_true, decide_eq_true_eq] at ha hb
  simp only [rangesOverlap, Bool.and_eq_true, decide_eq_true_eq]
  exact ⟨UInt8.le_trans ha.1 hb.2, UInt8.le_trans hb.1 ha.2⟩

theorem Apart.symm {a b : RouteEntry Addr} (h : Apart a b) : Apart b a :=
  (Bool.and_comm _ _).trans h

/-- At most one entry matches a unit id. -/
theorem matching_le_one (table : RouteTable Addr) (unitId : UInt8) :
    (table.entries.filter fun e => e.unitIdRange.contains unitId).length ≤ 1 := by
  have hdisjoint := table.disjoint.filter fun e => e.unitIdRange.contains unitId
  have hmatch : ∀ e ∈ table.entries.filter (fun e => e.unitIdRange.contains unitId),
      e.unitIdRange.contains unitId = true := fun e he => (List.mem_filter.mp he).2
  generalize table.entries.filter (fun e => e.unitIdRange.contains unitId) = found
    at hdisjoint hmatch
  cases found with
  | nil => exact Nat.zero_le 1
  | cons a found =>
    cases found with
    | nil => exact Nat.le_refl 1
    | cons b found =>
      have hapart : Apart a b := (List.pairwise_cons.mp hdisjoint).1 b List.mem_cons_self
      have hover := rangesOverlap_of_contains (hmatch a List.mem_cons_self)
        (hmatch b (List.mem_cons_of_mem a List.mem_cons_self))
      rw [Apart, hover] at hapart
      cases hapart

theorem resolveRoute_eq_some {unitId : UInt8} {e : RouteEntry Addr} :
    table.resolveRoute unitId = some e ↔
      e ∈ table.entries ∧ e.unitIdRange.contains unitId = true := by
  have hfind : table.resolveRoute unitId
      = (table.entries.filter fun e => e.unitIdRange.contains unitId).head? :=
    (List.head?_filter ..).symm
  have hmem : e ∈ table.entries.filter (fun e => e.unitIdRange.contains unitId) ↔
      e ∈ table.entries ∧ e.unitIdRange.contains unitId = true := List.mem_filter
  rw [hfind, ← hmem]
  have hone := table.matching_le_one unitId
  generalize table.entries.filter (fun e => e.unitIdRange.contains unitId) = found at hone
  cases found with
  | nil => simp
  | cons a found =>
    cases found with
    | nil => simp [eq_comm]
    | cons b found => exact absurd hone (by simp)

/-- The same entries in another order make a table, too, and one that resolves alike. -/
theorem resolveRoute_of_perm {entries entries' : List (RouteEntry Addr)}
    (hnew : new entries = some table) (hperm : entries'.Perm entries) :
    ∃ table', new entries' = some table' ∧
      ∀ unitId, table'.resolveRoute unitId = table.resolveRoute unitId := by
  rw [new_eq_some] at hnew
  subst hnew
  have hdisjoint : entries'.Pairwise Apart :=
    (hperm.pairwise_iff fun h => Apart.symm h).mpr table.disjoint
  refine ⟨⟨entries', hdisjoint⟩, new_eq_some.mpr rfl, fun unitId => Option.ext fun e => ?_⟩
  rw [resolveRoute_eq_some, resolveRoute_eq_some]
  exact and_congr_left fun _ => hperm.mem_iff

/-! ## The backends of a broadcast -/

section Backends

variable [DecidableEq Addr]

theorem mem_unseenBackends {addr : Addr} {seen : List Addr} {entries : List (RouteEntry Addr)} :
    addr ∈ unseenBackends seen entries ↔
      addr ∉ seen ∧ ∃ e ∈ entries, e.backendAddr = addr := by
  induction entries generalizing seen with
  | nil => simp [unseenBackends]
  | cons e entries ih =>
    rw [unseenBackends]
    split
    next hseen =>
      rw [ih]
      refine and_congr_right fun hnew => ?_
      have hne : e.backendAddr ≠ addr := fun h => hnew (h ▸ hseen)
      simp [hne]
    next hseen =>
      rw [List.mem_cons, ih]
      by_cases haddr : e.backendAddr = addr
      · subst haddr
        simp [hseen]
      · simp [haddr, Ne.symm haddr]

theorem nodup_unseenBackends (seen : List Addr) (entries : List (RouteEntry Addr)) :
    (unseenBackends seen entries).Nodup := by
  induction entries generalizing seen with
  | nil => exact List.nodup_nil
  | cons e entries ih =>
    rw [unseenBackends]
    split
    next => exact ih seen
    next =>
      refine List.nodup_cons.mpr ⟨fun hmem => ?_, ih _⟩
      exact (mem_unseenBackends.mp hmem).1 List.mem_cons_self

end Backends

end RouteTable

end RustyModbus.Gateway
