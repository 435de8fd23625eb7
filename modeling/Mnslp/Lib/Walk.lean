import Mathlib.Data.List.Forall2

/-! Comparisons in a program that go through one list and look into another one: they agree, they
find a difference, or they break off where the other list has nothing to compare with. -/
namespace Mnslp.Lib

variable {α β γ : Type}

/-- The other list begins with partners of all items. -/
inductive Along (agree : α → β → Prop) : List α → List β → Prop
  | done {others : List β} : Along agree [] others
  | step {item : α} {other : β} {rest : List α} {others : List β} (same : agree item other)
      (onwards : Along agree rest others) : Along agree (item :: rest) (other :: others)

/-- The first item that does not agree with its partner has none, or cannot be compared with it. -/
inductive BreaksOff (agree stuck : α → β → Prop) : List α → List β → Prop
  | short {item : α} {rest : List α} : BreaksOff agree stuck (item :: rest) []
  | here {item : α} {other : β} {rest : List α} {others : List β} (cannot : stuck item other) :
      BreaksOff agree stuck (item :: rest) (other :: others)
  | later {item : α} {other : β} {rest : List α} {others : List β} (same : agree item other)
      (onwards : BreaksOff agree stuck rest others) : BreaksOff agree stuck (item :: rest) (other :: others)

/-- The first item that does not pass cannot be looked at. -/
inductive FirstStuck (passes stuck : α → Prop) : List α → Prop
  | here {item : α} {rest : List α} (cannot : stuck item) : FirstStuck passes stuck (item :: rest)
  | later {item : α} {rest : List α} (passed : passes item) (onwards : FirstStuck passes stuck rest) :
      FirstStuck passes stuck (item :: rest)

theorem Along.trans {first : α → β → Prop} {second : β → γ → Prop} {joined : α → γ → Prop}
    (compose : ∀ a b c, first a b → second b c → joined a c) {as : List α} {bs : List β} {cs : List γ}
    (forth : Along first as bs) (onwards : Along second bs cs) : Along joined as cs := by
  induction forth generalizing cs with
  | done => exact .done
  | step same _ ih =>
    cases onwards with
    | step next rest => exact .step (compose _ _ _ same next) (ih rest)

/-- The way back along a list goes through unless it comes to a stop. -/
theorem Along.back {agree : α → β → Prop} {agreeBack stuckBack : β → α → Prop}
    (turn : ∀ a b, agree a b → agreeBack b a ∨ stuckBack b a) {as : List α} {bs : List β} (forth : Along agree as bs) :
    Along agreeBack bs as ∨ BreaksOff agreeBack stuckBack bs as := by
  induction forth with
  | @done others =>
    cases others with
    | nil => exact .inl .done
    | cons => exact .inr .short
  | step same _ ih =>
    rcases turn _ _ same with agreed | cannot
    · exact ih.imp (.step agreed) (.later agreed)
    · exact .inr (.here cannot)

theorem Along.both {agree : α → β → Prop} {agreeBack : β → α → Prop} {as : List α} {bs : List β}
    (forth : Along agree as bs) (back : Along agreeBack bs as) :
    List.Forall₂ (fun a b => agree a b ∧ agreeBack b a) as bs := by
  induction forth with
  | done =>
    cases back with
    | done => exact .nil
  | step same _ ih =>
    cases back with
    | step sameBack rest => exact .cons ⟨same,sameBack⟩ (ih rest)

theorem Along.of_forall₂ {agree : α → β → Prop} {as : List α} {bs : List β} (each : List.Forall₂ agree as bs) :
    Along agree as bs := by
  induction each with
  | nil => exact .done
  | cons same _ ih => exact .step same ih

/-- Where every item passes or is stuck, one that is stuck is the first that does not pass. -/
theorem all_or_firstStuck {passes stuck : α → Prop} {list : List α} (each : ∀ item ∈ list, passes item ∨ stuck item) :
    (∀ item ∈ list, passes item) ∨ FirstStuck passes stuck list := by
  induction list with
  | nil => exact .inl (List.forall_mem_nil _)
  | cons head rest ih =>
    obtain ⟨first,others⟩ := List.forall_mem_cons.mp each
    rcases first with passed | cannot
    · exact (ih others).imp (fun all => List.forall_mem_cons.mpr ⟨passed,all⟩) (.later passed)
    · exact .inr (.here cannot)

theorem exists_first {p : α → Prop} {list : List α} (some : ∃ a ∈ list, p a) :
    ∃ before a after, list = before ++ a :: after ∧ p a ∧ ∀ b ∈ before, ¬ p b := by
  classical
  obtain ⟨a,member,holds⟩ := some
  obtain ⟨b,found⟩ := Option.isSome_iff_exists.mp (List.find?_isSome (p := fun a => decide (p a)).mpr ⟨a,member,decide_eq_true holds⟩)
  obtain ⟨first,before,after,split,none⟩ := List.find?_eq_some_iff_append.mp found
  exact ⟨before,b,after,split,of_decide_eq_true first,fun c inside => by simpa using none c inside⟩

theorem partner_of_mem {R : α → β → Prop} {list : List α} {others : List β}
    (related : List.Forall₂ R list others) {a : α} (member : a ∈ list) : ∃ b ∈ others, R a b := by
  induction related with
  | nil => cases member
  | cons here _ ih =>
    rcases List.mem_cons.mp member with rfl | inside
    · exact ⟨_,List.mem_cons_self,here⟩
    · obtain ⟨b,present,both⟩ := ih inside
      exact ⟨b,List.mem_cons_of_mem _ present,both⟩

section Programs
variable {ε : Type} {compare : α → β → Except ε Bool} {stop : ε} {p : α → Except ε Bool} {list : List α}

/-- The program ends without a result. -/
def Breaks (result : Except ε α) : Prop := ∃ stop, result = .error stop

@[simp] theorem breaks_error (stop : ε) : Breaks (.error stop : Except ε α) := ⟨stop,rfl⟩

@[simp] theorem not_breaks_ok (a : α) : ¬ Breaks (.ok a : Except ε α) := by
  rintro ⟨_,⟨⟩⟩

theorem ok_of_not_breaks {result : Except ε α} (ends : ¬ Breaks result) : ∃ a, result = .ok a := by
  cases result with
  | error stop => exact absurd (breaks_error stop) ends
  | ok a => exact ⟨a,rfl⟩

@[simp] theorem breaks_map (f : α → β) (result : Except ε α) : Breaks (result.map f) ↔ Breaks result := by
  cases result <;> simp [Except.map]

theorem both_eq_true {first second : Except ε Bool} :
    (do if ← first then second else return false) = .ok true ↔ first = .ok true ∧ second = .ok true := by
  rcases first with stop | (_ | _) <;> simp [bind,Except.bind,pure,Except.pure]

theorem both_breaks {first second : Except ε Bool} :
    Breaks (do if ← first then second else return false) ↔ Breaks first ∨ first = .ok true ∧ Breaks second := by
  rcases first with stop | (_ | _) <;> simp [bind,Except.bind,pure,Except.pure]

/-- The loop of a comparison; `stop` is what becomes of a look beyond the end of the other list. -/
def walk (compare : α → β → Except ε Bool) (stop : ε) : List α → List β → Except ε Bool
  | [],_ => .ok true
  | _ :: _,[] => .error stop
  | item :: rest,other :: others => do if ← compare item other then walk compare stop rest others else return false

theorem walk_eq_true {agree : α → β → Prop} (agrees : ∀ a b, compare a b = .ok true ↔ agree a b) {as : List α}
    {bs : List β} : walk compare stop as bs = .ok true ↔ Along agree as bs := by
  constructor
  · intro same
    induction as generalizing bs with
    | nil => exact .done
    | cons item rest ih =>
      cases bs with
      | nil => cases same
      | cons other others =>
        obtain ⟨here,onwards⟩ := both_eq_true.mp same
        exact .step ((agrees item other).mp here) (ih onwards)
  · intro along
    induction along with
    | done => exact walk.eq_1 compare stop _
    | step same _ ih => exact both_eq_true.mpr ⟨(agrees _ _).mpr same,ih⟩

theorem walk_breaks {agree stuck : α → β → Prop} (agrees : ∀ a b, compare a b = .ok true ↔ agree a b)
    (sticks : ∀ a b, Breaks (compare a b) ↔ stuck a b) {as : List α} {bs : List β} :
    Breaks (walk compare stop as bs) ↔ BreaksOff agree stuck as bs := by
  constructor
  · intro broken
    induction as generalizing bs with
    | nil => exact absurd broken (not_breaks_ok true)
    | cons item rest ih =>
      cases bs with
      | nil => exact .short
      | cons other others =>
        rcases both_breaks.mp broken with cannot | ⟨same,onwards⟩
        · exact .here ((sticks item other).mp cannot)
        · exact .later ((agrees item other).mp same) (ih onwards)
  · intro off
    induction off with
    | short => exact breaks_error stop
    | here cannot => exact both_breaks.mpr (.inl ((sticks _ _).mpr cannot))
    | later same _ ih => exact both_breaks.mpr (.inr ⟨(agrees _ _).mpr same,ih⟩)

theorem allM_cons {head : α} {rest : List α} :
    (head :: rest).allM p = do if ← p head then rest.allM p else return false := by
  rw [List.allM]
  congr 1
  funext holds
  cases holds <;> rfl

theorem allM_eq_true : list.allM p = .ok true ↔ ∀ a ∈ list, p a = .ok true := by
  induction list with
  | nil => simp [List.allM,pure,Except.pure]
  | cons head rest ih => rw [allM_cons,both_eq_true,ih,List.forall_mem_cons]

theorem allM_breaks {passes stuck : α → Prop} (pass : ∀ a, p a = .ok true ↔ passes a)
    (sticks : ∀ a, Breaks (p a) ↔ stuck a) : Breaks (list.allM p) ↔ FirstStuck passes stuck list := by
  constructor
  · intro broken
    induction list with
    | nil => exact absurd broken (not_breaks_ok true)
    | cons head rest ih =>
      rw [allM_cons] at broken
      rcases both_breaks.mp broken with cannot | ⟨passed,onwards⟩
      · exact .here ((sticks head).mp cannot)
      · exact .later ((pass head).mp passed) (ih onwards)
  · intro first
    induction first with
    | here cannot =>
      rw [allM_cons]
      exact both_breaks.mpr (.inl ((sticks _).mpr cannot))
    | later passed _ ih =>
      rw [allM_cons]
      exact both_breaks.mpr (.inr ⟨(pass _).mpr passed,ih⟩)

theorem map_not_not (result : Except ε Bool) : (result.map not).map not = result := by
  rcases result with stop | (_ | _) <;> rfl

/-- A search for a difference is a test of all items for agreement. -/
theorem anyM_eq_allM : list.anyM p = (list.allM fun a => (p a).map not).map not := by
  induction list with
  | nil => rfl
  | cons head rest ih =>
    rw [allM_cons,List.anyM,ih]
    rcases p head with stop | (_ | _) <;> rfl

end Programs
end Mnslp.Lib
