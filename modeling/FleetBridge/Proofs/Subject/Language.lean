import FleetBridge.Proofs.Subject
import FleetBridge.Proofs.Text
import Mathlib.Data.List.Forall2

/-!
The language of patterns: which subjects a pattern accepts, token by token, and that a pattern with
wildcards in the place of tokens accepts no less.
-/
namespace FleetBridge.Subject

/-- A token of a pattern stands for a token of a subject. -/
def StandsFor (p t : Token) : Prop := p = star ∨ p = t

/-- No token is empty, and `>` is the last token if it is one. -/
structure Proper (pattern : String) : Prop where
  nonempty : ∀ p ∈ tokens pattern, p ≠ []
  rest_last : rest ∉ (tokens pattern).dropLast

/-- What a pattern says of a subject. Without `>` its tokens stand for those of the subject, one for
one; with `>` the tokens before it stand for the first ones, and at least one more follows. -/
def Describes (pattern subject : String) : Prop :=
  ((tokens pattern).getLast? ≠ some rest ∧
    (tokens pattern).length = (tokens subject).length ∧
    ∀ (i : ℕ) (hp : i < (tokens pattern).length) (hs : i < (tokens subject).length),
      StandsFor (tokens pattern)[i] (tokens subject)[i]) ∨
  ((tokens pattern).getLast? = some rest ∧
    (tokens pattern).length ≤ (tokens subject).length ∧
    ∀ (i : ℕ) (hp : i + 1 < (tokens pattern).length) (hs : i < (tokens subject).length),
      StandsFor (tokens pattern)[i] (tokens subject)[i])

/-- The text with these tokens. -/
def ofTokens (ts : List Token) : String := String.ofList (['.'].intercalate ts)

/-- The pattern with `*` for the token at a place. -/
def starred (i : ℕ) (pattern : String) : String := ofTokens ((tokens pattern).set i star)

/-- The pattern with `>` for all tokens from a place on. -/
def shortened (k : ℕ) (pattern : String) : String := ofTokens ((tokens pattern).take k ++ [rest])

/-! Tokens and texts. -/

variable {pattern subject : String} {p t : Token} {ps ts : List Token}

theorem tokens_ne_nil (s : String) : tokens s ≠ [] := List.splitOnP_ne_nil _ _

theorem dot_notMem_of_mem_tokens {s : String} (h : t ∈ tokens s) : '.' ∉ t :=
  (Text.mem_splitOn h).1

theorem tokens_ofTokens (hne : ts ≠ []) (hdot : ∀ t ∈ ts, '.' ∉ t) : tokens (ofTokens ts) = ts := by
  rw [tokens, ofTokens, String.toList_ofList]
  exact List.splitOn_intercalate '.' hdot hne

theorem tokens_starred (i : ℕ) (pattern : String) :
    tokens (starred i pattern) = (tokens pattern).set i star := by
  apply tokens_ofTokens
  · intro hnil
    have hlength := congrArg List.length hnil
    rw [List.length_set] at hlength
    exact tokens_ne_nil pattern (List.eq_nil_of_length_eq_zero hlength)
  · intro t ht
    rcases List.mem_or_eq_of_mem_set ht with ht | rfl
    · exact dot_notMem_of_mem_tokens ht
    · decide

theorem tokens_shortened (k : ℕ) (pattern : String) :
    tokens (shortened k pattern) = (tokens pattern).take k ++ [rest] := by
  apply tokens_ofTokens
  · exact List.append_ne_nil_of_right_ne_nil _ (List.cons_ne_nil _ _)
  · intro t ht
    rcases List.mem_append.mp ht with ht | ht
    · exact dot_notMem_of_mem_tokens (List.mem_of_mem_take ht)
    · rw [List.mem_singleton.mp ht]
      decide

theorem isConcreteToken_iff : isConcreteToken t = true ↔ t ≠ [] ∧ t ≠ star ∧ t ≠ rest := by
  simp [isConcreteToken, and_assoc]

theorem forall_isConcreteToken (h : isConcrete subject = true) :
    ∀ t ∈ tokens subject, isConcreteToken t = true :=
  List.all_eq_true.mp h

/-! Matching. -/

theorem star_ne_rest : star ≠ rest := by decide

theorem matchTokens_rest (ps ts : List Token) :
    matchTokens (rest :: ps) ts = true ↔ ∃ t r, ts = t :: r ∧ t ≠ [] := by
  cases ts with
  | nil => simp [matchTokens]
  | cons t r => simp [matchTokens]

/-- A token other than `>` takes the next token of the subject. -/
theorem matchTokens_cons (hp : p ≠ rest) :
    matchTokens (p :: ps) (t :: ts) = true ↔
      t ≠ [] ∧ StandsFor p t ∧ matchTokens ps ts = true := by
  rw [matchTokens, if_neg hp, StandsFor]
  by_cases hstar : p = star
  · simp [hstar]
  · simp [hstar, and_left_comm, and_assoc]

/-- Without `>` tokens match one for one. -/
theorem matchTokens_iff_forall₂ (hps : rest ∉ ps) (hts : ∀ t ∈ ts, t ≠ []) :
    matchTokens ps ts = true ↔ List.Forall₂ StandsFor ps ts := by
  induction ps generalizing ts with
  | nil =>
    cases ts with
    | nil => simp [matchTokens]
    | cons t ts => simp [matchTokens]
  | cons p ps ih =>
    rw [List.mem_cons, not_or] at hps
    cases ts with
    | nil => simp [matchTokens]
    | cons t ts =>
      rw [matchTokens_cons (Ne.symm hps.1), and_iff_right (hts t List.mem_cons_self),
        ih hps.2 fun u hu => hts u (List.mem_cons_of_mem t hu), List.forall₂_cons]

/-- With `>` at the end the tokens before it match first, and one more token follows. -/
theorem matchTokens_concat_rest (hps : rest ∉ ps) (hts : ∀ t ∈ ts, t ≠ []) :
    matchTokens (ps ++ [rest]) ts = true ↔
      ps.length < ts.length ∧ List.Forall₂ StandsFor ps (ts.take ps.length) := by
  induction ps generalizing ts with
  | nil =>
    rw [List.nil_append, matchTokens_rest]
    cases ts with
    | nil => simp
    | cons t ts => simp [hts t List.mem_cons_self]
  | cons p ps ih =>
    rw [List.mem_cons, not_or] at hps
    cases ts with
    | nil => simp [matchTokens]
    | cons t ts =>
      rw [List.cons_append, matchTokens_cons (Ne.symm hps.1),
        and_iff_right (hts t List.mem_cons_self),
        ih hps.2 fun u hu => hts u (List.mem_cons_of_mem t hu), List.length_cons, List.length_cons,
        List.take_succ_cons, List.forall₂_cons, Nat.succ_lt_succ_iff, and_left_comm]

/-- Token by token is place by place. -/
theorem forall₂_take_iff (h : ps.length ≤ ts.length) :
    List.Forall₂ StandsFor ps (ts.take ps.length) ↔
      ∀ (i : ℕ) (hp : i < ps.length) (ht : i < ts.length), StandsFor ps[i] ts[i] := by
  have hlength : ps.length = (ts.take ps.length).length := by
    rw [List.length_take]
    omega
  rw [List.forall₂_iff_get, and_iff_right hlength]
  constructor
  · intro hall i hp ht
    have hplace := hall i hp (hlength ▸ hp)
    simpa using hplace
  · intro hall i hp hi
    simpa using hall i hp (by omega)

theorem accepts_iff_describes (hp : Proper pattern) (hs : isConcrete subject = true) :
    accepts pattern subject = true ↔ Describes pattern subject := by
  have hts : ∀ t ∈ tokens subject, t ≠ [] := fun t ht =>
    (isConcreteToken_iff.mp (forall_isConcreteToken hs t ht)).1
  have hbefore := hp.rest_last
  obtain ⟨ps, p, hps⟩ :=
    (List.eq_nil_or_concat' (tokens pattern)).resolve_left (tokens_ne_nil pattern)
  rw [hps, List.dropLast_concat] at hbefore
  rw [accepts, Describes]
  simp only [hps, List.getLast?_concat, ne_eq, Option.some.injEq]
  -- The last token decides which of the two readings can apply.
  by_cases hlast : p = rest
  · subst hlast
    have hlength : (ps ++ [rest]).length = ps.length + 1 := List.length_append
    rw [or_iff_right fun h => h.1 rfl, and_iff_right rfl, matchTokens_concat_rest hbefore hts]
    constructor
    · rintro ⟨hlt, hall⟩
      rw [forall₂_take_iff (Nat.le_of_lt hlt)] at hall
      refine ⟨hlength ▸ hlt, ?_⟩
      intro i hi hs
      rw [List.getElem_append_left (by omega)]
      exact hall i (by omega) hs
    · rintro ⟨hle, hall⟩
      have hlt : ps.length < (tokens subject).length := by omega
      refine ⟨hlt, (forall₂_take_iff (Nat.le_of_lt hlt)).mpr ?_⟩
      intro i hi hs
      have hplace := hall i (by omega) hs
      rwa [List.getElem_append_left hi] at hplace
  · have hnone : rest ∉ ps ++ [p] := by
      rw [List.mem_append, List.mem_singleton, not_or]
      exact ⟨hbefore, Ne.symm hlast⟩
    rw [or_iff_left fun h => hlast h.1, and_iff_right hlast, matchTokens_iff_forall₂ hnone hts,
      List.forall₂_iff_get]
    rfl

/-! Wildcards in the place of tokens. -/

theorem ne_nil_of_matchTokens (h : matchTokens (p :: ps) (t :: ts) = true) : t ≠ [] := by
  by_cases hp : p = rest
  · subst hp
    obtain ⟨u, r, hcons, hu⟩ := (matchTokens_rest ps (t :: ts)).mp h
    rw [(List.cons.inj hcons).1]
    exact hu
  · exact ((matchTokens_cons hp).mp h).1

theorem matchTokens_set_star (i : ℕ) (hi : ps[i]? ≠ some rest) (h : matchTokens ps ts = true) :
    matchTokens (ps.set i star) ts = true := by
  induction ps generalizing i ts with
  | nil => exact h
  | cons p ps ih =>
    cases ts with
    | nil => cases h
    | cons t ts =>
      have ht := ne_nil_of_matchTokens h
      cases i with
      | zero =>
        have hp : p ≠ rest := fun hp => hi (congrArg some hp)
        have hlater := ((matchTokens_cons hp).mp h).2.2
        exact (matchTokens_cons star_ne_rest).mpr ⟨ht, .inl rfl, hlater⟩
      | succ i =>
        rw [List.set_cons_succ]
        by_cases hp : p = rest
        · subst hp
          exact (matchTokens_rest _ _).mpr ⟨t, ts, rfl, ht⟩
        · obtain ⟨-, hfirst, hlater⟩ := (matchTokens_cons hp).mp h
          exact (matchTokens_cons hp).mpr ⟨ht, hfirst, ih i hi hlater⟩

theorem matchTokens_take_rest {k : ℕ} (hk : k < ps.length) (h : matchTokens ps ts = true) :
    matchTokens (ps.take k ++ [rest]) ts = true := by
  induction ps generalizing k ts with
  | nil => exact absurd hk (Nat.not_lt_zero k)
  | cons p ps ih =>
    cases ts with
    | nil => cases h
    | cons t ts =>
      have ht := ne_nil_of_matchTokens h
      cases k with
      | zero => exact (matchTokens_rest _ _).mpr ⟨t, ts, rfl, ht⟩
      | succ k =>
        rw [List.take_succ_cons, List.cons_append]
        by_cases hp : p = rest
        · subst hp
          exact (matchTokens_rest _ _).mpr ⟨t, ts, rfl, ht⟩
        · obtain ⟨-, hfirst, hlater⟩ := (matchTokens_cons hp).mp h
          exact (matchTokens_cons hp).mpr ⟨ht, hfirst, ih (Nat.lt_of_succ_lt_succ hk) hlater⟩

theorem accepts_starred {i : ℕ} (hi : (tokens pattern)[i]? ≠ some rest)
    (h : accepts pattern subject = true) : accepts (starred i pattern) subject = true := by
  rw [accepts, tokens_starred]
  exact matchTokens_set_star i hi h

theorem accepts_shortened {k : ℕ} (hk : k < (tokens pattern).length)
    (h : accepts pattern subject = true) : accepts (shortened k pattern) subject = true := by
  rw [accepts, tokens_shortened]
  exact matchTokens_take_rest hk h

/-- A proper pattern accepts just the concrete subjects that it describes. So a concrete subject is
accepted as a pattern of its own, and nothing is lost by `*` in the place of a token other than `>`
or by `>` in the place of the last tokens. -/
theorem accepts_language (hp : Proper pattern) (hs : isConcrete subject = true) :
    (accepts pattern subject = true ↔ Describes pattern subject) ∧
      accepts subject subject = true ∧
      (∀ i, i < (tokens pattern).length → (tokens pattern)[i]? ≠ some rest →
        tokens (starred i pattern) = (tokens pattern).set i star ∧
        (accepts pattern subject = true → accepts (starred i pattern) subject = true)) ∧
      ∀ k, k < (tokens pattern).length →
        tokens (shortened k pattern) = (tokens pattern).take k ++ [rest] ∧
        (accepts pattern subject = true → accepts (shortened k pattern) subject = true) := by
  refine ⟨accepts_iff_describes hp hs, (accepts_concrete hs).mpr rfl, ?_, ?_⟩
  · intro i _ hi
    exact ⟨tokens_starred i pattern, accepts_starred hi⟩
  · intro k hk
    exact ⟨tokens_shortened k pattern, accepts_shortened hk⟩

/-- A pattern with both wildcards, a subject with one token more, and what the pattern becomes. -/
theorem platform_language : Proper "*.platform.>" ∧ isConcrete "U1.platform.imu.accel" = true ∧
    Describes "*.platform.>" "U1.platform.imu.accel" ∧
    ¬ Describes "*.platform.>" "U1.streets.imu.accel" ∧
    accepts "*.*.>" "U1.platform.imu.accel" = true ∧
    accepts "*.>" "U1.platform.imu.accel" = true := by
  have hp : Proper "*.platform.>" := ⟨by decide, by decide⟩
  have hs : isConcrete "U1.platform.imu.accel" = true := by decide
  have hother : isConcrete "U1.streets.imu.accel" = true := by decide
  obtain ⟨hiff, -, hstar, hshort⟩ := accepts_language hp hs
  have haccepts : accepts "*.platform.>" "U1.platform.imu.accel" = true := by decide
  refine ⟨hp, hs, hiff.mp haccepts, ?_, ?_, ?_⟩
  · intro hdescribes
    exact absurd ((accepts_language hp hother).1.mpr hdescribes) (by decide)
  · exact (hstar 1 (by decide) (by decide)).2 haccepts
  · exact (hshort 1 (by decide)).2 haccepts

end FleetBridge.Subject
