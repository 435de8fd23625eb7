import Mathlib.Data.List.Pairwise
import Mathlib.Data.List.Basic
import Mathlib.Data.List.Sort
import Mnslp.Lib.Walk

/-! Ordered maps in the manner of `std::map`: the comparison of keys goes through
an integer rank, two keys of one rank are the same key to the map, and the
entries stand in strictly increasing rank. The order is carried by the type. -/
namespace Mnslp.Lib

/-- What a map compares instead of its keys. -/
class Ranked (κ : Type) where
  rank : κ → Int

open Ranked

instance : Ranked UInt16 := ⟨fun key => key.toNat⟩

def Increasing {κ ν : Type} [Ranked κ] (entries : List (κ × ν)) : Prop :=
  entries.Pairwise (fun a b => rank a.1 < rank b.1)

structure OrderedMap (κ ν : Type) [Ranked κ] where
  entries : List (κ × ν)
  increasing : Increasing entries

namespace OrderedMap
variable {κ ν μ : Type} [Ranked κ]

theorem ext_entries {a b : OrderedMap κ ν} (same : a.entries = b.entries) : a = b := by
  cases a
  cases b
  cases same
  rfl

instance [DecidableEq κ] [DecidableEq ν] : DecidableEq (OrderedMap κ ν) := fun a b =>
  decidable_of_iff (a.entries = b.entries) ⟨ext_entries,fun same => same ▸ rfl⟩

def empty : OrderedMap κ ν := ⟨[],.nil⟩

instance : Inhabited (OrderedMap κ ν) := ⟨empty⟩

def size (m : OrderedMap κ ν) : Nat := m.entries.length

def keys (m : OrderedMap κ ν) : List κ := m.entries.map Prod.fst

def values (m : OrderedMap κ ν) : List ν := m.entries.map Prod.snd

def lookup (entries : List (κ × ν)) (key : κ) : Option ν :=
  (entries.find? (fun entry => decide (rank entry.1 = rank key))).map Prod.snd

/-- `find`: the value stored under a key of the same rank. -/
def find (m : OrderedMap κ ν) (key : κ) : Option ν := lookup m.entries key

/-- Puts an entry in its place. An entry of the same rank keeps its key and takes
the value `merge old new`. -/
def place (merge : ν → ν → ν) (key : κ) (value : ν) : List (κ × ν) → List (κ × ν)
  | [] => [(key,value)]
  | entry :: rest =>
    if rank key < rank entry.1 then (key,value) :: entry :: rest
    else if rank entry.1 < rank key then entry :: place merge key value rest
    else (entry.1,merge entry.2 value) :: rest

theorem mem_place_key (merge : ν → ν → ν) (key : κ) (value : ν) (entries : List (κ × ν)) (entry : κ × ν)
    (member : entry ∈ place merge key value entries) : entry.1 = key ∨ ∃ old ∈ entries, old.1 = entry.1 := by
  induction entries with
  | nil =>
    rw [place,List.mem_singleton] at member
    exact .inl (member ▸ rfl)
  | cons head rest ih =>
    rw [place] at member
    split at member
    · rcases List.mem_cons.mp member with rfl | inside
      · exact .inl rfl
      · exact .inr ⟨entry,inside,rfl⟩
    · split at member
      · rcases List.mem_cons.mp member with rfl | inside
        · exact .inr ⟨_,List.mem_cons_self,rfl⟩
        · rcases ih inside with same | ⟨old,present,same⟩
          · exact .inl same
          · exact .inr ⟨old,List.mem_cons_of_mem _ present,same⟩
      · rcases List.mem_cons.mp member with rfl | inside
        · exact .inr ⟨head,List.mem_cons_self,rfl⟩
        · exact .inr ⟨entry,List.mem_cons_of_mem _ inside,rfl⟩

theorem mem_place_rank (merge : ν → ν → ν) (key : κ) (value : ν) (entries : List (κ × ν))
    (entry : κ × ν) (member : entry ∈ place merge key value entries) :
    rank entry.1 = rank key ∨ ∃ old ∈ entries, rank old.1 = rank entry.1 := by
  rcases mem_place_key merge key value entries entry member with same | ⟨old,present,same⟩
  · exact .inl (congrArg rank same)
  · exact .inr ⟨old,present,congrArg rank same⟩

/-- A key below the first one is below all of them. -/
theorem below_all {key : κ} {head : κ × ν} {rest : List (κ × ν)} (increasing : Increasing (head :: rest))
    (below : rank key < rank head.1) : ∀ entry ∈ head :: rest, rank key < rank entry.1 := by
  intro entry member
  rcases List.mem_cons.mp member with rfl | inside
  · exact below
  · exact Int.lt_trans below ((List.pairwise_cons.mp increasing).1 _ inside)

theorem place_increasing (merge : ν → ν → ν) (key : κ) (value : ν) (entries : List (κ × ν))
    (increasing : Increasing entries) : Increasing (place merge key value entries) := by
  induction entries with
  | nil => exact List.pairwise_singleton _ _
  | cons head rest ih =>
    obtain ⟨above,tail⟩ := List.pairwise_cons.mp increasing
    rw [place]
    split
    · rename_i below
      exact List.pairwise_cons.mpr ⟨below_all increasing below,increasing⟩
    · split
      · rename_i below
        refine List.pairwise_cons.mpr ⟨?_,ih tail⟩
        intro entry member
        rcases mem_place_rank merge key value rest entry member with same | ⟨old,present,same⟩
        · exact same ▸ below
        · exact same ▸ above old present
      · exact List.pairwise_cons.mpr ⟨fun entry member => above entry member,tail⟩

theorem place_above (merge : ν → ν → ν) (key : κ) (value : ν) (entries : List (κ × ν))
    (above : ∀ entry ∈ entries, rank entry.1 < rank key) :
    place merge key value entries = entries ++ [(key,value)] := by
  induction entries with
  | nil => rfl
  | cons head rest ih =>
    have below := above head List.mem_cons_self
    rw [place,if_neg (by omega),if_pos below,ih fun entry member => above entry (List.mem_cons_of_mem _ member)]
    rfl

theorem place_ne_nil (merge : ν → ν → ν) (key : κ) (value : ν) (entries : List (κ × ν)) :
    place merge key value entries ≠ [] := by
  cases entries with
  | nil => exact List.cons_ne_nil _ _
  | cons head rest =>
    rw [place]
    split
    · exact List.cons_ne_nil _ _
    · split <;> exact List.cons_ne_nil _ _

theorem place_below (merge : ν → ν → ν) (key : κ) (value : ν) (entries : List (κ × ν))
    (below : ∀ entry ∈ entries, rank key < rank entry.1) :
    place merge key value entries = (key,value) :: entries := by
  cases entries with
  | nil => rfl
  | cons head rest => rw [place,if_pos (below head List.mem_cons_self)]

/-- Overwriting what was just put under the same key. -/
theorem place_place (merge : ν → ν → ν) (key : κ) (first second : ν) (entries : List (κ × ν)) :
    place (fun _ new => new) key second (place merge key first entries) = place (fun _ new => new) key second entries := by
  induction entries with
  | nil =>
    rw [place,place,place,if_neg (Int.lt_irrefl _),if_neg (Int.lt_irrefl _)]
  | cons head rest ih =>
    by_cases below : rank key < rank head.1
    · rw [place,if_pos below,place,if_neg (Int.lt_irrefl _),if_neg (Int.lt_irrefl _),place,if_pos below]
    · rw [place,if_neg below]
      by_cases above : rank head.1 < rank key
      · rw [if_pos above,place,if_neg below,if_pos above,ih,place,if_neg below,if_pos above]
      · rw [if_neg above,place,if_neg below,if_neg above,place,if_neg below,if_neg above]

/-- Erasing what was just put under the same key. -/
theorem filter_place (merge : ν → ν → ν) (key : κ) (value : ν) (entries : List (κ × ν)) :
    (place merge key value entries).filter (fun entry => decide (rank entry.1 ≠ rank key)) =
      entries.filter fun entry => decide (rank entry.1 ≠ rank key) := by
  induction entries with
  | nil => simp [place]
  | cons head rest ih =>
    by_cases below : rank key < rank head.1
    · rw [place,if_pos below,List.filter_cons]
      simp
    · rw [place,if_neg below]
      by_cases above : rank head.1 < rank key
      · rw [if_pos above,List.filter_cons,List.filter_cons,ih]
      · have same : rank head.1 = rank key := by omega
        rw [if_neg above,List.filter_cons,List.filter_cons]
        simp [same]

/-- Keys of the same ranks and other values in the same places. -/
theorem place_map {κ' : Type} [Ranked κ'] (f : κ → κ') (g : ν → μ) (key : κ) (value : ν) (entries : List (κ × ν))
    (own : rank (f key) = rank key) (others : ∀ entry ∈ entries, rank (f entry.1) = rank entry.1) :
    place (fun _ new => new) (f key) (g value) (entries.map (Prod.map f g)) =
      (place (fun _ new => new) key value entries).map (Prod.map f g) := by
  induction entries with
  | nil => rfl
  | cons head rest ih =>
    have here := others head List.mem_cons_self
    have placed := ih fun entry member => others entry (List.mem_cons_of_mem _ member)
    rw [List.map_cons,place,place,Prod.map_fst,own,here,placed]
    split
    · rfl
    · split <;> rfl

/-- The entries that a table has under keys that stand in their order. -/
def tabulate (table : κ → Option ν) (keys : List κ) : List (κ × ν) :=
  keys.filterMap fun key => (table key).map fun value => (key,value)

omit [Ranked κ] in
theorem mem_tabulate {table : κ → Option ν} {keys : List κ} {entry : κ × ν} :
    entry ∈ tabulate table keys ↔ entry.1 ∈ keys ∧ table entry.1 = some entry.2 := by
  unfold tabulate
  rw [List.mem_filterMap]
  constructor
  · rintro ⟨key,member,found⟩
    obtain ⟨value,present,rfl⟩ := Option.map_eq_some_iff.mp found
    exact ⟨member,present⟩
  · rintro ⟨member,present⟩
    exact ⟨entry.1,member,by rw [present]; rfl⟩

omit [Ranked κ] in
theorem filter_tabulate (table : κ → Option ν) (p : κ → Bool) (keys : List κ) :
    (tabulate table keys).filter (fun entry => p entry.1) = tabulate table (keys.filter p) := by
  unfold tabulate
  induction keys with
  | nil => rfl
  | cons key rest ih =>
    cases chosen : p key with
    | true => cases found : table key <;> simp [chosen,found,ih]
    | false => cases found : table key <;> simp [chosen,found,ih]

theorem place_tabulate {table changed : κ → Option ν} {keys : List κ} {rest : List (κ × ν)} {key : κ} {value : ν}
    (sorted : keys.Pairwise fun a b => rank a < rank b) (above : ∀ entry ∈ rest, rank key < rank entry.1)
    (member : key ∈ keys) (there : changed key = some value) (others : ∀ other ∈ keys, other ≠ key →
      changed other = table other) :
    place (fun _ new => new) key value (tabulate table keys ++ rest) = tabulate changed keys ++ rest := by
  induction keys with
  | nil => cases member
  | cons head keys ih =>
    obtain ⟨greater,sorted⟩ := List.pairwise_cons.mp sorted
    have same (absent : key ∉ keys) : tabulate changed keys = tabulate table keys := by
      apply List.filterMap_congr
      intro other inside
      rw [others other (List.mem_cons_of_mem _ inside) fun equal => absent (equal ▸ inside)]
    by_cases first : head = key
    · subst first
      have absent : head ∉ keys := fun inside => Int.lt_irrefl _ (greater head inside)
      have unchanged := same absent
      unfold tabulate at unchanged ⊢
      rw [List.filterMap_cons,List.filterMap_cons,there,unchanged]
      cases old : table head with
      | none =>
        apply place_below
        intro entry inside
        rcases List.mem_append.mp inside with inside | inside
        · exact greater _ (mem_tabulate.mp inside).1
        · exact above entry inside
      | some old =>
        simp only [Option.map_some,List.cons_append,place]
        rw [if_neg (Int.lt_irrefl _),if_neg (Int.lt_irrefl _)]
    · have inside := (List.mem_cons.mp member).resolve_left (Ne.symm first)
      have less := greater key inside
      have placed := ih sorted inside fun other member => others other (List.mem_cons_of_mem _ member)
      unfold tabulate at placed ⊢
      rw [List.filterMap_cons,List.filterMap_cons,others head List.mem_cons_self first]
      cases table head with
      | none => exact placed
      | some old =>
        simp only [Option.map_some,List.cons_append,place]
        rw [if_neg (by omega),if_pos less,placed]

/-- `entries[key] = value`. -/
def set (m : OrderedMap κ ν) (key : κ) (value : ν) : OrderedMap κ ν :=
  ⟨place (fun _ new => new) key value m.entries,place_increasing _ _ _ _ m.increasing⟩

/-- `insert`: an entry of the same rank stays as it is. -/
def insert (m : OrderedMap κ ν) (key : κ) (value : ν) : OrderedMap κ ν :=
  ⟨place (fun old _ => old) key value m.entries,place_increasing _ _ _ _ m.increasing⟩

def erase (m : OrderedMap κ ν) (key : κ) : OrderedMap κ ν :=
  ⟨m.entries.filter (fun entry => decide (rank entry.1 ≠ rank key)),m.increasing.filter _⟩

def mapValues (f : ν → μ) (m : OrderedMap κ ν) : OrderedMap κ μ :=
  ⟨m.entries.map (fun entry => (entry.1,f entry.2)),by simpa only [Increasing,List.pairwise_map] using m.increasing⟩

theorem set_insert (m : OrderedMap κ ν) (key : κ) (first second : ν) :
    (m.insert key first).set key second = m.set key second := ext_entries (place_place _ _ _ _ _)

theorem erase_insert (m : OrderedMap κ ν) (key : κ) (value : ν) : (m.insert key value).erase key = m.erase key :=
  ext_entries (filter_place _ _ _ _)

@[simp] theorem find_empty (key : κ) : (empty : OrderedMap κ ν).find key = none := rfl

/-- The map does not tell keys of one rank from each other. -/
theorem find_congr (m : OrderedMap κ ν) {key probe : κ} (same : rank key = rank probe) : m.find key = m.find probe := by
  unfold find lookup
  rw [same]

@[simp] theorem lookup_nil (key : κ) : lookup ([] : List (κ × ν)) key = none := rfl

theorem lookup_cons (entry : κ × ν) (rest : List (κ × ν)) (key : κ) :
    lookup (entry :: rest) key = if rank entry.1 = rank key then some entry.2 else lookup rest key := by
  unfold lookup
  rw [List.find?_cons]
  by_cases same : rank entry.1 = rank key <;> simp [same]

theorem lookup_map {κ' : Type} [Ranked κ'] (f : κ → κ') (g : ν → μ) (key : κ) (entries : List (κ × ν))
    (own : rank (f key) = rank key) (others : ∀ entry ∈ entries, rank (f entry.1) = rank entry.1) :
    lookup (entries.map (Prod.map f g)) (f key) = (lookup entries key).map g := by
  induction entries with
  | nil => rfl
  | cons head rest ih =>
    have here := others head List.mem_cons_self
    rw [List.map_cons,lookup_cons,lookup_cons,Prod.map_fst,own,here,
      ih fun entry member => others entry (List.mem_cons_of_mem _ member)]
    split <;> rfl

theorem lookup_above (entries : List (κ × ν)) (key : κ)
    (above : ∀ entry ∈ entries, rank key < rank entry.1) : lookup entries key = none := by
  unfold lookup
  rw [List.find?_eq_none.mpr]
  · rfl
  · intro entry member
    have := above entry member
    simp only [decide_eq_true_eq]
    omega

theorem lookup_place_same (merge : ν → ν → ν) (key probe : κ) (value : ν) (entries : List (κ × ν))
    (increasing : Increasing entries) (same : rank probe = rank key) :
    lookup (place merge key value entries) probe =
      some (match lookup entries key with | some old => merge old value | none => value) := by
  induction entries with
  | nil => simp [place,lookup_cons,same]
  | cons head rest ih =>
    obtain ⟨above,tail⟩ := List.pairwise_cons.mp increasing
    rw [place]
    split
    · rename_i below
      have absent : lookup (head :: rest) key = none := by
        apply lookup_above
        exact below_all increasing below
      rw [absent,lookup_cons,if_pos same.symm]
    · split
      · rename_i below
        have different : rank head.1 ≠ rank key := by omega
        rw [lookup_cons,if_neg (by omega),ih tail,lookup_cons,if_neg different]
      · have equal : rank head.1 = rank key := by omega
        rw [lookup_cons,lookup_cons,if_pos equal,if_pos (equal.trans same.symm)]

theorem lookup_place_other (merge : ν → ν → ν) (key probe : κ) (value : ν) (entries : List (κ × ν))
    (different : rank probe ≠ rank key) :
    lookup (place merge key value entries) probe = lookup entries probe := by
  induction entries with
  | nil => rw [place,lookup_cons,if_neg (Ne.symm different)]
  | cons head rest ih =>
    rw [place]
    split
    · rw [lookup_cons,if_neg (Ne.symm different)]
    · split
      · rw [lookup_cons,ih,lookup_cons]
      · have : rank head.1 ≠ rank probe := by omega
        rw [lookup_cons,if_neg this,lookup_cons,if_neg this]

theorem perm_place_of_absent (merge : ν → ν → ν) (key : κ) (value : ν) (entries : List (κ × ν))
    (increasing : Increasing entries) (absent : lookup entries key = none) :
    (place merge key value entries).Perm ((key,value) :: entries) := by
  induction entries with
  | nil => exact .refl _
  | cons head rest ih =>
    obtain ⟨above,tail⟩ := List.pairwise_cons.mp increasing
    rw [lookup_cons] at absent
    split at absent
    · cases absent
    · rw [place]
      split
      · exact .refl _
      · rw [if_pos (by omega)]
        exact ((ih tail absent).cons head).trans (.swap (key,value) head rest)

theorem place_of_present (merge : ν → ν → ν) (key : κ) (old value : ν) (entries : List (κ × ν))
    (increasing : Increasing entries) (found : lookup entries key = some old) (kept : merge old value = old) :
    place merge key value entries = entries := by
  induction entries with
  | nil => cases found
  | cons head rest ih =>
    obtain ⟨above,tail⟩ := List.pairwise_cons.mp increasing
    rw [lookup_cons] at found
    rw [place]
    by_cases same : rank head.1 = rank key
    · rw [if_pos same] at found
      cases found
      rw [if_neg (by omega),if_neg (by omega),kept]
    · rw [if_neg same] at found
      have less : rank head.1 < rank key := by
        by_contra beyond
        rw [lookup_above rest key fun entry member => Int.lt_of_le_of_lt (Int.not_lt.mp beyond) (above entry member)] at found
        cases found
      rw [if_neg (by omega),if_pos less,ih tail found]

theorem insert_of_present (m : OrderedMap κ ν) (key : κ) (old value : ν) (found : m.find key = some old) :
    m.insert key value = m := ext_entries (place_of_present _ key old value m.entries m.increasing found rfl)

theorem find_insert_self_of_absent (m : OrderedMap κ ν) (key probe : κ) (value : ν) (absent : m.find key = none)
    (same : rank probe = rank key) : (m.insert key value).find probe = some value := by
  have placed := lookup_place_same (fun old _ => old) key probe value m.entries m.increasing same
  change lookup m.entries key = none at absent
  rw [absent] at placed
  exact placed

theorem values_insert_of_absent (m : OrderedMap κ ν) (key : κ) (value : ν) (absent : m.find key = none) :
    (m.insert key value).values.Perm (value :: m.values) :=
  (perm_place_of_absent _ _ _ _ m.increasing absent).map Prod.snd

@[simp] theorem find_set_self (m : OrderedMap κ ν) (key : κ) (value : ν) :
    (m.set key value).find key = some value := by
  have placed := lookup_place_same (fun _ new => new) key key value m.entries m.increasing rfl
  cases found : lookup m.entries key <;> simpa [set,find,found] using placed

theorem find_set_other (m : OrderedMap κ ν) (key probe : κ) (value : ν)
    (different : rank probe ≠ rank key) : (m.set key value).find probe = m.find probe :=
  lookup_place_other _ _ _ _ _ different

theorem find_insert_other (m : OrderedMap κ ν) (key probe : κ) (value : ν)
    (different : rank probe ≠ rank key) : (m.insert key value).find probe = m.find probe :=
  lookup_place_other _ _ _ _ _ different

@[simp] theorem find_mapValues (f : ν → μ) (m : OrderedMap κ ν) (key : κ) :
    (m.mapValues f).find key = (m.find key).map f := by
  simp only [find,mapValues]
  induction m.entries with
  | nil => rfl
  | cons head rest ih =>
    rw [List.map_cons,lookup_cons,lookup_cons]
    split
    · rfl
    · exact ih

@[simp] theorem find_erase_self (m : OrderedMap κ ν) (key : κ) : (m.erase key).find key = none := by
  simp only [find,erase,lookup,Option.map_eq_none_iff,List.find?_eq_none,decide_eq_true_eq]
  intro entry member
  simpa using (List.mem_filter.mp member).2

theorem find_erase_other (m : OrderedMap κ ν) (key probe : κ) (different : rank probe ≠ rank key) :
    (m.erase key).find probe = m.find probe := by
  simp only [find,erase]
  induction m.entries with
  | nil => rfl
  | cons head rest ih =>
    rw [List.filter_cons,lookup_cons]
    by_cases erased : rank head.1 = rank key
    · have skipped : rank head.1 ≠ rank probe := fun same => different (same.symm.trans erased)
      rw [if_neg (by simpa using erased),if_neg skipped,ih]
    · rw [if_pos (by simpa using erased),lookup_cons,ih]

theorem find_of_find_erase (m : OrderedMap κ ν) {key probe : κ} {value : ν} (found : (m.erase key).find probe = some value) :
    m.find probe = some value := by
  by_cases same : rank probe = rank key
  · rw [find_congr _ same,find_erase_self] at found
    cases found
  · rw [find_erase_other _ _ _ same] at found
    exact found

theorem rank_ne_of_keys (m : OrderedMap κ ν) {key other : κ} (member : key ∈ m.keys) (inside : other ∈ m.keys)
    (different : key ≠ other) : rank key ≠ rank other := by
  have : Std.Symm fun (a b : κ) => rank a ≠ rank b := ⟨fun _ _ => Ne.symm⟩
  have apart : m.keys.Pairwise fun a b => rank a ≠ rank b :=
    List.pairwise_map.mpr (m.increasing.imp fun less => Int.ne_of_lt less)
  exact apart.forall member inside different

theorem nodup_keys (m : OrderedMap κ ν) : m.keys.Nodup := by
  apply List.pairwise_map.mpr
  refine m.increasing.imp fun {first second} below same => ?_
  rw [same] at below
  exact Int.lt_irrefl _ below

theorem size_erase_le (m : OrderedMap κ ν) (key : κ) : (m.erase key).size ≤ m.size := List.length_filter_le _ _

/-- What a change of a value leaves when the change cannot be seen. -/
theorem mapValues_set (f : ν → μ) (m : OrderedMap κ ν) {key : κ} {old value : ν} (found : m.find key = some old)
    (same : f value = f old) : (m.set key value).mapValues f = m.mapValues f := by
  apply ext_entries
  have mapped : lookup (m.mapValues f).entries key = some (f old) := by
    change (m.mapValues f).find key = _
    rw [find_mapValues,found]
    rfl
  have kept := place_of_present (fun _ new => new) key (f old) (f value) (m.mapValues f).entries (m.mapValues f).increasing mapped same
  exact (place_map id f key value m.entries rfl fun _ _ => rfl).symm.trans kept

theorem size_set_of_find (m : OrderedMap κ ν) (key : κ) (old value : ν) (found : m.find key = some old) :
    (m.set key value).size = m.size := by
  obtain ⟨entries,increasing⟩ := m
  simp only [size,set]
  change lookup entries key = some old at found
  induction entries with
  | nil => cases found
  | cons head rest ih =>
    obtain ⟨above,tail⟩ := List.pairwise_cons.mp increasing
    rw [place]
    split
    · rename_i below
      rw [lookup_above (head :: rest) key (below_all increasing below)] at found
      cases found
    · split
      · rename_i below
        rw [lookup_cons,if_neg (by omega)] at found
        rw [List.length_cons,List.length_cons,ih tail found]
      · rfl

theorem find_eq_some_mem (m : OrderedMap κ ν) (key : κ) (value : ν) (found : m.find key = some value) :
    ∃ stored, (stored,value) ∈ m.entries ∧ rank stored = rank key := by
  unfold find lookup at found
  obtain ⟨entry,located,rfl⟩ := Option.map_eq_some_iff.mp found
  have ranked := List.find?_some located
  exact ⟨entry.1,List.mem_of_find?_eq_some located,by simpa using ranked⟩

theorem find_of_mem (m : OrderedMap κ ν) (stored : κ) (value : ν) (member : (stored,value) ∈ m.entries) :
    m.find stored = some value := by
  obtain ⟨entries,increasing⟩ := m
  simp only [find]
  change (stored,value) ∈ entries at member
  induction entries with
  | nil => simp at member
  | cons head rest ih =>
    obtain ⟨above,tail⟩ := List.pairwise_cons.mp increasing
    rw [lookup_cons]
    rcases List.mem_cons.mp member with same | inside
    · rw [if_pos (by rw [← same]),← same]
    · have different : rank head.1 ≠ rank stored := by
        have := above _ inside
        simp only at this
        omega
      rw [if_neg different]
      exact ih tail inside

/-- What the map compares, in its order. -/
def ranks (m : OrderedMap κ ν) : List Int := m.entries.map fun entry => rank entry.1

theorem ranks_increasing (m : OrderedMap κ ν) : m.ranks.Pairwise (· < ·) := List.pairwise_map.mpr m.increasing

theorem exists_find_iff (m : OrderedMap κ ν) (key : κ) : (∃ value, m.find key = some value) ↔ rank key ∈ m.ranks := by
  constructor
  · rintro ⟨value,found⟩
    obtain ⟨stored,member,same⟩ := m.find_eq_some_mem key value found
    exact List.mem_map.mpr ⟨(stored,value),member,same⟩
  · intro ranked
    obtain ⟨⟨stored,value⟩,member,same⟩ := List.mem_map.mp ranked
    exact ⟨value,(m.find_congr same.symm).trans (m.find_of_mem stored value member)⟩

/-- All keys are in the other map, with values that agree. -/
def Inside (agree : ν → μ → Prop) (a : OrderedMap κ ν) (b : OrderedMap κ μ) : Prop :=
  ∀ entry ∈ a.entries, ∃ value, b.find entry.1 = some value ∧ agree entry.2 value

section Inside
variable {agree : ν → μ → Prop} {a : OrderedMap κ ν} {b : OrderedMap κ μ}

theorem Inside.of_find (inside : Inside agree a b) {key : κ} {value : ν} (found : a.find key = some value) :
    ∃ partner, b.find key = some partner ∧ agree value partner := by
  obtain ⟨stored,member,ranked⟩ := a.find_eq_some_mem key value found
  rw [← b.find_congr ranked]
  exact inside (stored,value) member

/-- What an entry of the other map is compared with on the way back has agreed with it. -/
theorem Inside.turn (inside : Inside agree a b) {entry : κ × μ} (member : entry ∈ b.entries) {value : ν}
    (found : a.find entry.1 = some value) : agree value entry.2 := by
  obtain ⟨partner,foundPartner,agrees⟩ := inside.of_find found
  rw [b.find_of_mem entry.1 entry.2 member] at foundPartner
  cases foundPartner
  exact agrees

theorem Inside.trans {ξ : Type} {next : μ → ξ → Prop} {joined : ν → ξ → Prop} {c : OrderedMap κ ξ}
    (compose : ∀ x y z, agree x y → next y z → joined x z) (first : Inside agree a b) (second : Inside next b c) :
    Inside joined a c := by
  intro entry member
  obtain ⟨value,found,agrees⟩ := first entry member
  obtain ⟨last,foundLast,nextAgrees⟩ := second.of_find found
  exact ⟨last,foundLast,compose _ _ _ agrees nextAgrees⟩

theorem Inside.ranks_subset (inside : Inside agree a b) : a.ranks ⊆ b.ranks := by
  intro ranked member
  obtain ⟨entry,present,rfl⟩ := List.mem_map.mp member
  obtain ⟨value,found,_⟩ := inside entry present
  exact (b.exists_find_iff entry.1).mp ⟨value,found⟩

/-- Of two maps of one size neither has a key more than the other. -/
theorem Inside.ranks_eq_of_size (inside : Inside agree a b) (sizes : b.size = a.size) : a.ranks = b.ranks := by
  have lengths : b.ranks.length ≤ a.ranks.length := by
    simp only [ranks,List.length_map]
    exact Nat.le_of_eq sizes
  have fewer := List.subperm_of_subset a.ranks_increasing.nodup inside.ranks_subset
  exact (fewer.perm_of_length_le lengths).eq_of_pairwise' a.ranks_increasing b.ranks_increasing

/-- Maps inside each other stand side by side. -/
theorem Inside.both {agreeBack : μ → ν → Prop} (forth : Inside agree a b) (back : Inside agreeBack b a) :
    List.Forall₂ (fun entry other => rank entry.1 = rank other.1 ∧ agree entry.2 other.2 ∧ agreeBack other.2 entry.2)
      a.entries b.entries := by
  have ranked : List.Forall₂ (fun entry other => rank entry.1 = rank other.1) a.entries b.entries := by
    have same := List.Subset.antisymm_of_pairwise a.ranks_increasing b.ranks_increasing forth.ranks_subset back.ranks_subset
    have equal : List.Forall₂ Eq a.ranks b.ranks := by
      rw [List.forall₂_eq_eq_eq]
      exact same
    exact List.forall₂_map_right_iff.mp (List.forall₂_map_left_iff.mp equal)
  obtain ⟨lengths,each⟩ := List.forall₂_iff_zip.mp ranked
  refine List.forall₂_iff_zip.mpr ⟨lengths,fun {entry other} paired => ⟨each paired,?_,?_⟩⟩
  · obtain ⟨member,present⟩ := List.of_mem_zip paired
    exact forth.turn present ((a.find_congr (each paired)).symm.trans (a.find_of_mem entry.1 entry.2 member))
  · obtain ⟨member,present⟩ := List.of_mem_zip paired
    exact back.turn member ((b.find_congr (each paired)).trans (b.find_of_mem other.1 other.2 present))

/-- A map inside another one of its size stands beside it. -/
theorem Inside.forall₂_of_size (inside : Inside agree a b) (sizes : b.size = a.size) :
    List.Forall₂ (fun entry other => rank entry.1 = rank other.1 ∧ agree entry.2 other.2) a.entries b.entries := by
  have ranks := inside.ranks_eq_of_size sizes
  have back : Inside (fun _ _ => True) b a := by
    intro entry member
    obtain ⟨value,found⟩ := (a.exists_find_iff entry.1).mpr (ranks ▸ List.mem_map.mpr ⟨entry,member,rfl⟩)
    exact ⟨value,found,trivial⟩
  exact (inside.both back).imp fun _ _ paired => ⟨paired.1,paired.2.1⟩

theorem Inside.of_forall₂
    (each : List.Forall₂ (fun entry other => rank entry.1 = rank other.1 ∧ agree entry.2 other.2) a.entries b.entries) :
    Inside agree a b := by
  intro entry member
  obtain ⟨other,present,ranked,agrees⟩ := partner_of_mem each member
  exact ⟨other.2,(b.find_congr ranked).trans (b.find_of_mem other.1 other.2 present),agrees⟩

/-! The test of a program that looks up each key in the other map and fails where it is absent. -/

section Test
variable {ε : Type} {test : κ × ν → Except ε Bool} (absent : ∀ entry, b.find entry.1 = none → test entry = .ok false)
  (present : ∀ entry value, b.find entry.1 = some value → (test entry = .ok true ↔ agree entry.2 value))
include absent present

private theorem test_eq_true (entry : κ × ν) :
    test entry = .ok true ↔ ∃ value, b.find entry.1 = some value ∧ agree entry.2 value := by
  cases found : b.find entry.1 with
  | none => simp [absent entry found]
  | some value => simp [present entry value found]

theorem allM_find_eq_true : a.entries.allM test = .ok true ↔ Inside agree a b := by
  rw [allM_eq_true]
  exact forall₂_congr fun entry _ => test_eq_true absent present entry

theorem allM_find_breaks {stuck : ν → μ → Prop}
    (sticks : ∀ entry value, b.find entry.1 = some value → (Breaks (test entry) ↔ stuck entry.2 value)) :
    Breaks (a.entries.allM test) ↔ FirstStuck (fun entry => ∃ value, b.find entry.1 = some value ∧ agree entry.2 value)
      (fun entry => ∃ value, b.find entry.1 = some value ∧ stuck entry.2 value) a.entries := by
  refine allM_breaks (test_eq_true absent present) fun entry => ?_
  cases found : b.find entry.1 with
  | none => simp [absent entry found]
  | some value => simp [sticks entry value found]

end Test

end Inside

/-- Maps that find the same are the same, where no two keys have one rank. -/
theorem ext_find (injective : ∀ key other : κ, rank key = rank other → key = other) {a b : OrderedMap κ ν}
    (same : ∀ key, a.find key = b.find key) : a = b := by
  have forth : Inside Eq a b := fun entry member => ⟨entry.2,(same entry.1).symm.trans (a.find_of_mem _ _ member),rfl⟩
  have back : Inside Eq b a := fun entry member => ⟨entry.2,(same entry.1).trans (b.find_of_mem _ _ member),rfl⟩
  apply ext_entries
  rw [← List.forall₂_eq_eq_eq]
  exact (forth.both back).imp fun _ _ paired => Prod.ext (injective _ _ paired.1) paired.2.1

/-- The entries of a map, put into another one in their order, replace what it has. -/
theorem find_foldl_set (f : μ → ν) (a : OrderedMap κ μ) (m : OrderedMap κ ν) (key : κ) :
    (a.entries.foldl (fun m entry => m.set entry.1 (f entry.2)) m).find key = ((a.find key).map f).or (m.find key) := by
  obtain ⟨entries,increasing⟩ := a
  change _ = ((lookup entries key).map f).or (m.find key)
  induction entries generalizing m with
  | nil => rfl
  | cons head rest ih =>
    obtain ⟨above,tail⟩ := List.pairwise_cons.mp increasing
    rw [List.foldl_cons,ih _ tail,lookup_cons]
    by_cases same : rank head.1 = rank key
    · rw [if_pos same,lookup_above rest key fun entry member => same ▸ above entry member,← (m.set head.1 (f head.2)).find_congr same,
        find_set_self]
      rfl
    · rw [if_neg same,find_set_other _ _ _ _ (Ne.symm same)]

/-- Inserted in their order they leave what the other map has. -/
theorem find_foldl_insert (f : μ → ν) (a : OrderedMap κ μ) (m : OrderedMap κ ν) (key : κ) :
    (a.entries.foldl (fun m entry => m.insert entry.1 (f entry.2)) m).find key = (m.find key).or ((a.find key).map f) := by
  obtain ⟨entries,increasing⟩ := a
  change _ = (m.find key).or ((lookup entries key).map f)
  induction entries generalizing m with
  | nil => simp
  | cons head rest ih =>
    obtain ⟨above,tail⟩ := List.pairwise_cons.mp increasing
    rw [List.foldl_cons,ih _ tail,lookup_cons]
    by_cases same : rank head.1 = rank key
    · rw [if_pos same,lookup_above rest key fun entry member => same ▸ above entry member,m.find_congr same.symm]
      cases found : m.find head.1 with
      | some old => rw [m.insert_of_present _ old _ found,m.find_congr same.symm,found,Option.some_or,Option.some_or]
      | none =>
        rw [m.find_insert_self_of_absent _ _ _ found same.symm]
        rfl
    · rw [if_neg same,find_insert_other _ _ _ _ (Ne.symm same)]

/-- The entries of a map make the map again, in whatever order they are inserted. -/
theorem foldl_insert_perm {entries : List (κ × ν)} {a m : OrderedMap κ ν} (perm : (a.entries ++ entries).Perm m.entries) :
    entries.foldl (fun map entry => map.insert entry.1 entry.2) a = m := by
  induction entries generalizing a with
  | nil =>
    rw [List.append_nil] at perm
    exact ext_entries (perm.eq_of_pairwise (fun _ _ _ _ less more => absurd less (Int.lt_asymm more)) a.increasing m.increasing)
  | cons head rest ih =>
    have distinct : ((a.entries ++ head :: rest).map fun entry => rank entry.1).Nodup :=
      (perm.map _).nodup_iff.mpr (m.ranks_increasing.imp Int.ne_of_lt)
    have absent : a.find head.1 = none := by
      refine Option.eq_none_iff_forall_ne_some.mpr fun value found => ?_
      have ranked := (a.exists_find_iff head.1).mp ⟨value,found⟩
      rw [List.map_append] at distinct
      exact (List.nodup_append.mp distinct).2.2 _ ranked _ List.mem_cons_self rfl
    refine ih (((perm_place_of_absent _ head.1 head.2 a.entries a.increasing absent).append_right rest).trans ?_)
    exact List.perm_middle.symm.trans perm

end OrderedMap
end Mnslp.Lib
