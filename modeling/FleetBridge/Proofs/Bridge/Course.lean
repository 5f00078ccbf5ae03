import FleetBridge.Bridge.Turn
import Mathlib.Logic.Relation

/-!
Courses: the turns that something takes one after another, while others do what they may in between.
A statement about every course holds for every interleaving.
-/
namespace FleetBridge.Turn

variable {σ ε : Type}

/-- A turn that was taken: by which chance, in which state and on which bridge. -/
structure Taken (σ : Type) where
  chance : Nat
  state : σ
  bridge : Bridge

/-- A course lists its turns in the order in which they were taken; `amid` says what others may do
between two of them. -/
inductive Course (turn : Nat → σ → Bridge → Turn σ ε) (amid : Bridge → Bridge → Prop) (s₀ : σ)
    (b₀ : Bridge) : List (Taken σ) → σ → Bridge → Prop
  | start : Course turn amid s₀ b₀ [] s₀ b₀
  | between {ts : List (Taken σ)} {s : σ} {b b' : Bridge} :
    Course turn amid s₀ b₀ ts s b → amid b b' → Course turn amid s₀ b₀ ts s b'
  | taken {ts : List (Taken σ)} {s s' : σ} {b b' : Bridge} (n : Nat) :
    Course turn amid s₀ b₀ ts s b → turn n s b = .next s' b' →
    Course turn amid s₀ b₀ (ts ++ [⟨n, s, b⟩]) s' b'

/-- A course up to its last turn. -/
inductive Ends (turn : Nat → σ → Bridge → Turn σ ε) (amid : Bridge → Bridge → Prop) (s₀ : σ)
    (b₀ : Bridge) : List (Taken σ) → ε → Bridge → Prop
  | done {ts : List (Taken σ)} {s : σ} {b b' : Bridge} {e : ε} (n : Nat) :
    Course turn amid s₀ b₀ ts s b → turn n s b = .done e b' →
    Ends turn amid s₀ b₀ (ts ++ [⟨n, s, b⟩]) e b'

variable {turn : Nat → σ → Bridge → Turn σ ε} {amid : Bridge → Bridge → Prop} {s₀ : σ}
  {b₀ : Bridge}

/-! Lists that grow by one turn. -/

theorem filterMap_concat {α β : Type} (f : α → Option β) (xs : List α) (x : α) :
    (xs ++ [x]).filterMap f = xs.filterMap f ++ (f x).toList := by
  rw [List.filterMap_append, List.filterMap_cons]
  cases f x with
  | none => rfl
  | some y => rfl

theorem filterMap_concat_of_none {α β : Type} {f : α → Option β} {x : α} (h : f x = none)
    (xs : List α) : (xs ++ [x]).filterMap f = xs.filterMap f := by
  rw [filterMap_concat, h, Option.toList_none, List.append_nil]

theorem forall_mem_concat {α : Type} {P : α → Prop} {xs : List α} {x : α} (hxs : ∀ y ∈ xs, P y)
    (hx : P x) : ∀ y ∈ xs ++ [x], P y :=
  List.forall_mem_append.mpr ⟨hxs, List.forall_mem_singleton.mpr hx⟩

/-! Courses. -/

/-- What holds at the start and is kept by every turn and by all that others do holds throughout. -/
theorem Course.invariant (I : List (Taken σ) → σ → Bridge → Prop) (hstart : I [] s₀ b₀)
    (hbetween : ∀ ts s b b', I ts s b → amid b b' → I ts s b')
    (htaken : ∀ ts n s b s' b', I ts s b → turn n s b = .next s' b' →
      I (ts ++ [⟨n, s, b⟩]) s' b')
    {ts : List (Taken σ)} {s : σ} {b : Bridge} (h : Course turn amid s₀ b₀ ts s b) :
    I ts s b := by
  induction h with
  | start => exact hstart
  | between _ ha ih => exact hbetween _ _ _ _ ih ha
  | taken n _ ht ih => exact htaken _ n _ _ _ _ ih ht

/-- A course begins with what others do and then its first turn. -/
theorem Course.head {ts : List (Taken σ)} {s : σ} {b : Bridge}
    (h : Course turn amid s₀ b₀ ts s b) :
    (s = s₀ ∧ Relation.ReflTransGen amid b₀ b) ∨
      ∃ n b₁ s₁ b₂ ts', Relation.ReflTransGen amid b₀ b₁ ∧ turn n s₀ b₁ = .next s₁ b₂ ∧
        Course turn amid s₁ b₂ ts' s b := by
  induction h with
  | start => exact .inl ⟨rfl, .refl⟩
  | between _ ha ih =>
    rcases ih with ⟨rfl, hb⟩ | ⟨n, b₁, s₁, b₂, ts', hb, hfirst, hrest⟩
    · exact .inl ⟨rfl, hb.tail ha⟩
    · exact .inr ⟨n, b₁, s₁, b₂, ts', hb, hfirst, hrest.between ha⟩
  | taken n _ ht ih =>
    rcases ih with ⟨rfl, hb⟩ | ⟨n', b₁, s₁, b₂, ts', hb, hfirst, hrest⟩
    · exact .inr ⟨n, _, _, _, _, hb, ht, .start⟩
    · exact .inr ⟨n', b₁, s₁, b₂, _, hb, hfirst, hrest.taken n ht⟩

/-- Where others can bring a wait to its end, a course goes on to a turn that is no wait. -/
theorem Course.exists_going {ts : List (Taken σ)} {s : σ} {b : Bridge} (n : Nat)
    (h : Course turn amid s₀ b₀ ts s b)
    (hpass : turn n s b = .wait → ∃ b', amid b b' ∧ turn n s b' ≠ .wait) :
    ∃ b', Course turn amid s₀ b₀ ts s b' ∧ turn n s b' ≠ .wait := by
  by_cases hwait : turn n s b = .wait
  · obtain ⟨b', hb, hgoes⟩ := hpass hwait
    exact ⟨b', h.between hb, hgoes⟩
  · exact ⟨b, h, hwait⟩

/-- A map of states that goes well with turns, as far as they get, takes courses to courses. -/
theorem Course.map {σ' ε' : Type} {turn' : Nat → σ' → Bridge → Turn σ' ε'} (I : σ → Prop)
    (f : σ → σ') (g : ε → ε') (hstart : I s₀)
    (hkept : ∀ n s b s' b', I s → turn n s b = .next s' b' → I s')
    (hmap : ∀ n s b, I s → turn' n (f s) b = (turn n s b).map f g)
    {ts : List (Taken σ)} {s : σ} {b : Bridge} (h : Course turn amid s₀ b₀ ts s b) :
    I s ∧
      Course turn' amid (f s₀) b₀ (ts.map fun t => ⟨t.chance, f t.state, t.bridge⟩) (f s) b := by
  induction h with
  | start => exact ⟨hstart, .start⟩
  | between _ ha ih => exact ⟨ih.1, ih.2.between ha⟩
  | @taken ts s s' b b' n _ ht ih =>
    refine ⟨hkept n _ _ _ _ ih.1 ht, ?_⟩
    have hnext : turn' n (f s) b = .next (f s') b' := by rw [hmap n s b ih.1, ht]; rfl
    rw [List.map_append, List.map_singleton]
    exact ih.2.taken n hnext

/-- The bridge that a turn leaves. -/
def Taken.after (turn : Nat → σ → Bridge → Turn σ ε) (t : Taken σ) : Bridge :=
  match turn t.chance t.state t.bridge with
  | .wait => t.bridge
  | .next _ b => b
  | .done _ b => b

theorem Taken.after_of_next {n : Nat} {s s' : σ} {b b' : Bridge} (h : turn n s b = .next s' b') :
    Taken.after turn ⟨n, s, b⟩ = b' := by
  rw [after, h]

theorem Taken.after_of_done {n : Nat} {s : σ} {b b' : Bridge} {e : ε}
    (h : turn n s b = .done e b') : Taken.after turn ⟨n, s, b⟩ = b' := by
  rw [after, h]

/-- What a turn adds to the status log. -/
def Taken.written (turn : Nat → σ → Bridge → Turn σ ε) (t : Taken σ) :
    List (Int × Event.Status) :=
  match turn t.chance t.state t.bridge with
  | .wait => []
  | .next _ b => b.statuses.updates.drop t.bridge.statuses.updates.length
  | .done _ b => b.statuses.updates.drop t.bridge.statuses.updates.length

/-- The statuses that are written in turns, in their order. -/
def written (turn : Nat → σ → Bridge → Turn σ ε) (ts : List (Taken σ)) :
    List (Int × Event.Status) :=
  ts.flatMap (Taken.written turn)

theorem written_append (ts : List (Taken σ)) (n : Nat) (s : σ) (b : Bridge) :
    written turn (ts ++ [⟨n, s, b⟩]) = written turn ts ++ Taken.written turn ⟨n, s, b⟩ := by
  rw [written, List.flatMap_append, List.flatMap_singleton]
  rfl

/-- Every bridge that a turn leaves has a property. -/
def All (P : Bridge → Prop) : Turn σ ε → Prop
  | wait => True
  | next _ b => P b
  | done _ b => P b

theorem map_eq_next {σ' ε' : Type} {f : σ → σ'} {g : ε → ε'} {t : Turn σ ε} {s' : σ'}
    {b : Bridge} (h : t.map f g = .next s' b) : ∃ s, t = .next s b ∧ f s = s' := by
  cases t with
  | wait => cases h
  | next s b => cases h; exact ⟨s, rfl, rfl⟩
  | done e b => cases h

theorem map_eq_done {σ' ε' : Type} {f : σ → σ'} {g : ε → ε'} {t : Turn σ ε} {e' : ε'}
    {b : Bridge} (h : t.map f g = .done e' b) : ∃ e, t = .done e b ∧ g e = e' := by
  cases t with
  | wait => cases h
  | next s b => cases h
  | done e b => cases h; exact ⟨e, rfl, rfl⟩

end FleetBridge.Turn
