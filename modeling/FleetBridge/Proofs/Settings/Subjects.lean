import FleetBridge.Proofs.Settings.Load
import FleetBridge.Proofs.Subject.Language

/-!
The subjects of loaded profiles. A profile's own tokens have no wildcards, but some of them may be
empty; then nothing is heard of the channel.
-/
namespace FleetBridge.Subject

open Setting

variable {s t u : String}

theorem not_wildcard_of_mem_tokens (hs : Between s) {x : Token} (hx : x ∈ tokens s) :
    x ≠ star ∧ x ≠ rest := by
  have hsub := (Text.mem_splitOn hx).2
  constructor
  · rintro rfl
    exact (hs.plain '*' (hsub List.mem_cons_self)).1 rfl
  · rintro rfl
    exact (hs.plain '>' (hsub List.mem_cons_self)).2.1 rfl

/-- Without wildcards a token is concrete unless it is empty. -/
theorem isConcrete_iff_of_between (hs : Between s) : isConcrete s = true ↔ [] ∉ tokens s := by
  have htoken : ∀ x ∈ tokens s, isConcreteToken x = true ↔ x ≠ [] := by
    intro x hx
    rw [isConcreteToken_iff, and_iff_left (not_wildcard_of_mem_tokens hs hx)]
  rw [isConcrete, List.all_eq_true]
  constructor
  · intro h hnil
    exact (htoken [] hnil).mp (h [] hnil) rfl
  · intro h x hx
    exact (htoken x hx).mpr fun he => h (he ▸ hx)

/-- Something stands there, and no two dots meet in it. -/
def Gapless (s : String) : Prop := s ≠ "" ∧ ¬ ['.', '.'] <:+: s.toList

instance (s : String) : Decidable (Gapless s) := inferInstanceAs (Decidable (_ ∧ _))

theorem nil_notMem_tokens_iff (hs : Between s) : [] ∉ tokens s ↔ Gapless s := by
  rw [tokens, Text.nil_mem_splitOn_iff hs.ends, String.toList_eq_nil_iff, not_or]
  rfl

theorem matchTokens_cons_self {x : Token} (hx : isConcreteToken x = true) (ps ts : List Token) :
    matchTokens (x :: ps) (x :: ts) = matchTokens ps ts := by
  obtain ⟨hempty, -, hrest⟩ := isConcreteToken_iff.mp hx
  rw [Bool.eq_iff_iff, matchTokens_cons hrest, and_iff_right hempty, StandsFor,
    and_iff_right (Or.inr rfl)]

/-- Tokens without wildcards and `>` behind them match what goes on behind the same tokens, unless
one of those is empty. -/
theorem matchTokens_append_rest {ps : List Token} (hps : ∀ x ∈ ps, x ≠ star ∧ x ≠ rest)
    {x : Token} (hx : x ≠ []) (ts : List Token) :
    matchTokens (ps ++ [rest]) (ps ++ x :: ts) = true ↔ [] ∉ ps := by
  induction ps with
  | nil => simp [matchTokens, hx]
  | cons y ps ih =>
    obtain ⟨⟨-, hrest⟩, hps⟩ := List.forall_mem_cons.mp hps
    rw [List.cons_append, List.cons_append, matchTokens_cons hrest, StandsFor,
      and_iff_right (Or.inr rfl), ih hps, List.mem_cons, not_or, ne_comm]

/-- A unit's topic below a profile's tokens. -/
def topicOf (u subject t : String) : String := u ++ "." ++ subject ++ "." ++ t

theorem tokens_topicOf (hu : IsToken u) (s t : String) :
    tokens (topicOf u s t) = u.toList :: (tokens s ++ tokens t) := by
  rw [topicOf, tokens_append_dot, tokens_append_dot, hu.1]
  rfl

theorem isConcrete_topicOf (hu : IsToken u) (ht : isConcrete t = true) :
    isConcrete (topicOf u s t) = isConcrete s := by
  rw [isConcrete, tokens_topicOf hu, List.all_cons, List.all_append, hu.2, Bool.true_and]
  change (isConcrete s && isConcrete t) = isConcrete s
  rw [ht, Bool.and_true]

theorem accepts_topicOf (hu : IsToken u) (hs : Between s) (ht : isConcrete t = true) :
    accepts (telemetry u s) (topicOf u s t) = true ↔ [] ∉ tokens s := by
  obtain ⟨x, ts, hx⟩ := List.exists_cons_of_ne_nil (tokens_ne_nil t)
  have hne : x ≠ [] := by
    rintro rfl
    rw [isConcrete, hx] at ht
    cases ht
  rw [accepts, tokens_telemetry hu, tokens_topicOf hu, matchTokens_cons_self hu.2, hx]
  exact matchTokens_append_rest (fun y hy => not_wildcard_of_mem_tokens hs hy) hne ts

end FleetBridge.Subject

namespace FleetBridge.Settings

open Subject

variable {env : Environment} {s : Settings} {p : Profile} {u t : String}

/-- The topics of a channel are concrete and heard just when the profile's own tokens are there and
none of them is empty. -/
theorem heard_iff (hload : load env = .ok s) (hp : p ∈ s.profiles) (hu : IsToken u)
    (ht : isConcrete t = true) :
    (isConcrete (topicOf u p.subject t) = true ↔ Gapless p.subject) ∧
      (accepts (telemetry u p.subject) (topicOf u p.subject t) = true ↔ Gapless p.subject) ∧
      ((∀ x ∈ tokens p.subject, x ≠ []) ↔ Gapless p.subject) := by
  have hs := ((mapM_loadProfile (loads_of_load hload).profiles).2 p hp).subject
  have hgapless := nil_notMem_tokens_iff hs
  refine ⟨?_, (accepts_topicOf hu hs ht).trans hgapless, ?_⟩
  · rw [isConcrete_topicOf hu ht, isConcrete_iff_of_between hs, hgapless]
  · rw [← hgapless]
    exact ⟨fun h hnil => h [] hnil rfl, fun h x hx he => h (he ▸ hx)⟩

/-- What an evaluation shows of a profile that is loaded. -/
theorem exists_load {i : Nat}
    (h : (load env).toOption.bind (fun s => s.profiles[i]?) = some p) :
    ∃ s, load env = .ok s ∧ p ∈ s.profiles := by
  cases hload : load env with
  | error e =>
    rw [hload] at h
    cases h
  | ok s =>
    rw [hload] at h
    exact ⟨s, rfl, List.mem_of_getElem? h⟩

theorem fleet_heard :
    ∃ s, load fleet = .ok s ∧ ∃ p ∈ s.profiles, p.channel = .streets ∧ IsToken "RSU-1" ∧
      isConcrete "speed.now" = true ∧ Gapless p.subject ∧
      isConcrete (topicOf "RSU-1" p.subject "speed.now") = true ∧
      accepts (telemetry "RSU-1" p.subject) (topicOf "RSU-1" p.subject "speed.now") = true := by
  have hprofile : (load fleet).toOption.bind (fun s => s.profiles[1]?) =
      some ⟨.streets, "road.side", ["RSU-1", "RSU-2"], "streets-bucket"⟩ := by
    decide +kernel
  obtain ⟨s, hload, hp⟩ := exists_load hprofile
  have hu : IsToken "RSU-1" := by decide
  have ht : isConcrete "speed.now" = true := by decide
  have hgapless : Gapless "road.side" := by decide
  obtain ⟨hconcrete, haccepts, -⟩ := heard_iff hload hp hu ht
  exact ⟨s, hload, _, hp, rfl, hu, ht, hgapless, hconcrete.mpr hgapless, haccepts.mpr hgapless⟩

/-- An environment whose platform has dots for tokens. -/
def dotted (name : String) : Option String :=
  match name with
  | "TELEMATIC_CHANNEL" => some "ALL"
  | "DATABASE_URL" => some "postgres://localhost/telematic"
  | "TELEMATIC_PLATFORM_SUBJECT" => some "."
  | _ => none

/-- A lone dot passes the check and is dropped after it, so nothing is heard of the platform. -/
theorem unheard_behind_dot :
    ∃ s, load dotted = .ok s ∧ ∃ p ∈ s.profiles, p.channel = .platform ∧ IsToken "U1" ∧
      isConcrete "door" = true ∧ isConcrete (topicOf "U1" p.subject "door") = false ∧
      accepts (telemetry "U1" p.subject) (topicOf "U1" p.subject "door") = false := by
  have hprofile : (load dotted).toOption.bind (fun s => s.profiles[0]?) =
      some ⟨.platform, "", [], "platform-bucket"⟩ := by
    decide +kernel
  obtain ⟨s, hload, hp⟩ := exists_load hprofile
  exact ⟨s, hload, _, hp, rfl, by decide, by decide, by decide, by decide⟩

end FleetBridge.Settings
