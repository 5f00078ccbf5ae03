import FleetBridge.Sink.Remote
import Mathlib.Data.List.Induction

/-!
What the connected flag of a remote sink says about the calls made so far: over any history of pings
and writes, with any network for each of them, it is the outcome of the last ping, unless a write
failed to get through since.
-/
namespace FleetBridge.RemoteSink

/-- A call of a sink, with the network that it meets. -/
inductive Use where
  | ping (network : HttpRequest → HttpReply)
  | write (network : HttpRequest → HttpReply) (x : Sample)

/-- What a call brings to light about the way to the store. -/
inductive Sign where
  /-- What came of the request of a ping. -/
  | ping (reply : HttpReply)
  /-- The request of a write went out, and no answer came. -/
  | writeLost
  /-- The sink counted as connected, and yet the request of a write could not go out. -/
  | writeUnsent

/-- Whether a sign speaks for the way to the store: a ping was answered, and with success. -/
def Sign.isGood : Sign → Bool
  | .ping (.status code) => HttpReply.isSuccess code
  | _ => false

namespace Use

def call : Use → RemoteSink → Call
  | .ping network, s => s.connect network
  | .write network x, s => s.write network x

/-- The sign that a call gives, read off the request that went out and its reply. -/
def sign? : Use → RemoteSink → Option Sign
  | .ping network, s => (s.connect network).sent.map fun r => .ping (network r)
  | .write network x, s =>
    match (s.write network x).sent with
    | some r => if network r = .lost then some .writeLost else none
    | none => if s.connected then some .writeUnsent else none

end Use

/-- The sink after a history of calls. -/
def after (s : RemoteSink) (us : List Use) : RemoteSink :=
  us.foldl (fun s u => (u.call s).sink) s

/-- The signs of a history of calls, in their order. -/
def signs (s : RemoteSink) : List Use → List Sign
  | [] => []
  | u :: us => (u.sign? s).toList ++ (u.call s).sink.signs us

/-- A token that can stand in a header. -/
def Sendable (s : RemoteSink) : Prop := ∀ c ∈ s.token.toList, isHeaderChar c = true

instance (s : RemoteSink) : Decidable s.Sendable :=
  decidable_of_iff (s.token.toList.all isHeaderChar = true) List.all_eq_true

section Call

variable (network : HttpRequest → HttpReply) (x : Sample) (s : RemoteSink)

theorem canSend_writeRequest : canSend (s.writeRequest x) = true ↔ s.Sendable := by
  have hscheme : ∀ c ∈ "Token ".toList, isHeaderChar c = true := List.all_eq_true.mp (by decide)
  change (s.authorization.all fun h => h.toList.all isHeaderChar) = true ↔ _
  unfold authorization
  split
  next hempty =>
    have hnil : s.token = "" := String.isEmpty_iff.mp hempty
    refine ⟨fun _ c hc => ?_, fun _ => rfl⟩
    rw [hnil] at hc
    cases hc
  next =>
    rw [Option.all_some, String.toList_append, List.all_append, Bool.and_eq_true,
      List.all_eq_true, List.all_eq_true]
    exact ⟨And.right, And.intro hscheme⟩

theorem pinged_sink (reply : HttpReply) :
    (s.pinged reply).2 = { s with connected := (Sign.ping reply).isGood } := by
  cases reply with
  | lost => rfl
  | status code =>
    rw [pinged, Sign.isGood]
    cases HttpReply.isSuccess code <;> rfl

theorem written_sink_status (code : Nat) : (s.written (.status code)).2 = s := by
  rw [written]
  split <;> rfl

theorem written_ok_iff (reply : HttpReply) :
    (s.written reply).1 = .ok () ↔ reply = .status 200 ∨ reply = .status 204 := by
  cases reply with
  | lost => simp [written]
  | status code =>
    rw [HttpReply.status.injEq, HttpReply.status.injEq, written]
    split
    next h => exact iff_of_true rfl h
    next h => exact iff_of_false (fun hok => nomatch hok) h

variable {s}

theorem write_of_disconnected (h : s.connected = false) :
    s.write network x = ⟨.error .notConnected, s, none⟩ := by
  rw [write, h]
  rfl

theorem write_of_not_sendable (h : s.connected = true) (hs : ¬s.Sendable) :
    s.write network x =
      ⟨.error (.write s.bucket ""), { s with connected := false }, none⟩ := by
  have hc : canSend (s.writeRequest x) = false :=
    Bool.eq_false_iff.mpr fun hc => hs ((canSend_writeRequest x s).mp hc)
  simp only [write, h, hc, written, Bool.not_true, Bool.false_eq_true, if_false, Option.map_none,
    Option.getD_none]

theorem write_of_sendable (h : s.connected = true) (hs : s.Sendable) :
    s.write network x = ⟨(s.written (network (s.writeRequest x))).1,
      (s.written (network (s.writeRequest x))).2, some (s.writeRequest x)⟩ := by
  have hc : canSend (s.writeRequest x) = true := (canSend_writeRequest x s).mpr hs
  simp only [write, h, hc, Bool.not_true, Bool.false_eq_true, if_false, if_true, Option.map_some,
    Option.getD_some]

variable (s)

/-- What a write comes to: it is not tried, its request cannot go out, or its request goes out. -/
theorem write_cases :
    (s.connected = false ∧ s.write network x = ⟨.error .notConnected, s, none⟩) ∨
    (s.connected = true ∧ ¬s.Sendable ∧ s.write network x =
      ⟨.error (.write s.bucket ""), { s with connected := false }, none⟩) ∨
    (s.connected = true ∧ s.Sendable ∧ s.write network x =
      ⟨(s.written (network (s.writeRequest x))).1, (s.written (network (s.writeRequest x))).2,
        some (s.writeRequest x)⟩) := by
  cases h : s.connected with
  | false => exact .inl ⟨rfl, write_of_disconnected network x h⟩
  | true =>
    by_cases hs : s.Sendable
    · exact .inr (.inr ⟨rfl, hs, write_of_sendable network x h hs⟩)
    · exact .inr (.inl ⟨rfl, hs, write_of_not_sendable network x h hs⟩)

variable {network x s}

/-- Where the request of a write went out, the write came to what its reply says. -/
theorem write_of_sent {r : HttpRequest} (hr : (s.write network x).sent = some r) :
    s.write network x = ⟨(s.written (network r)).1, (s.written (network r)).2, some r⟩ := by
  obtain ⟨-, hwrite⟩ | ⟨-, -, hwrite⟩ | ⟨-, -, hwrite⟩ := write_cases network x s
  · rw [hwrite] at hr
    cases hr
  · rw [hwrite] at hr
    cases hr
  · rw [hwrite] at hr ⊢
    cases hr
    rfl

variable (network x s)

theorem write_ok_iff : (s.write network x).result = .ok () ↔
    ∃ r, (s.write network x).sent = some r ∧
      (network r = .status 200 ∨ network r = .status 204) := by
  constructor
  · intro hok
    obtain ⟨-, hwrite⟩ | ⟨-, -, hwrite⟩ | ⟨-, -, hwrite⟩ := write_cases network x s
    · rw [hwrite] at hok
      cases hok
    · rw [hwrite] at hok
      cases hok
    · rw [hwrite] at hok ⊢
      exact ⟨_, rfl, (s.written_ok_iff _).mp hok⟩
  · rintro ⟨r, hr, hreply⟩
    rw [write_of_sent hr]
    exact (s.written_ok_iff _).mpr hreply

end Call

section History

variable (s : RemoteSink)

/-- The flag after a call is what the sign of the call says, and stays where it gives none; nothing
else of the sink ever changes. -/
theorem call_sink (u : Use) :
    (u.call s).sink = { s with connected := ((u.sign? s).map Sign.isGood).getD s.connected } := by
  cases u with
  | ping network => exact s.pinged_sink (network s.pingRequest)
  | write network x =>
    rw [Use.call, Use.sign?]
    obtain ⟨h, hwrite⟩ | ⟨h, -, hwrite⟩ | ⟨-, -, hwrite⟩ := write_cases network x s
    · rw [hwrite, if_neg (Bool.eq_false_iff.mp h)]
      rfl
    · rw [hwrite, h]
      rfl
    · rw [hwrite]
      dsimp only
      cases network (s.writeRequest x) with
      | lost => rfl
      | status code =>
        rw [if_neg HttpReply.noConfusion, written_sink_status]
        rfl

theorem after_snoc (us : List Use) (u : Use) :
    s.after (us ++ [u]) = (u.call (s.after us)).sink := by
  rw [after, List.foldl_append]
  rfl

theorem signs_snoc (us : List Use) (u : Use) :
    s.signs (us ++ [u]) = s.signs us ++ (u.sign? (s.after us)).toList := by
  induction us generalizing s with
  | nil => exact List.append_nil _
  | cons v us ih =>
    rw [List.cons_append, signs, signs, ih, List.append_assoc]
    rfl

/-- The flag after a history is what its last sign says, and stays where there is none. -/
theorem after_eq (us : List Use) :
    s.after us =
      { s with connected := ((s.signs us).getLast?.map Sign.isGood).getD s.connected } := by
  induction us using List.reverseRecOn with
  | nil => rfl
  | append_singleton us u ih =>
    rw [after_snoc, call_sink, signs_snoc, List.getLast?_append]
    cases u.sign? (s.after us) with
    | none =>
      rw [ih]
      rfl
    | some g =>
      rw [ih]
      rfl

end History

theorem Sign.isGood_iff {g : Sign} :
    g.isGood = true ↔ ∃ code, g = .ping (.status code) ∧ HttpReply.isSuccess code = true := by
  refine ⟨fun h => ?_, ?_⟩
  · match g with
    | .ping (.status code) => exact ⟨code, rfl, h⟩
  · rintro ⟨code, rfl, h⟩
    exact h

/-- How a sink that was not connected at first stands after a history of calls. -/
structure Tracks (s : RemoteSink) (us : List Use) : Prop where
  /-- It counts as connected if the last sign was a ping answered with success. -/
  connected_iff : (s.after us).connected = true ↔
    ∃ code, (s.signs us).getLast? = some (.ping (.status code)) ∧ HttpReply.isSuccess code = true
  /-- A write that is tried then puts its request out on the same condition, given a token that can
  stand in a header. -/
  sent_eq : ∀ network x, ((s.after us).write network x).sent =
    if (s.after us).connected = true ∧ s.Sendable then some ((s.after us).writeRequest x) else none
  /-- Without a connection it has no effect. -/
  disconnected : (s.after us).connected = false → ∀ network x,
    (s.after us).write network x = ⟨.error .notConnected, s.after us, none⟩
  /-- With a token that cannot stand in a header it fails and ends the connection. -/
  unsendable : (s.after us).connected = true → ¬s.Sendable → ∀ network x,
    (s.after us).write network x =
      ⟨.error (.write s.bucket ""), { s.after us with connected := false }, none⟩
  /-- It succeeds on two status codes alone. -/
  ok_iff : ∀ network x, ((s.after us).write network x).result = .ok () ↔
    ∃ r, ((s.after us).write network x).sent = some r ∧
      (network r = .status 200 ∨ network r = .status 204)
  /-- On any other status it says so and leaves the sink as it is. -/
  refused : ∀ network x r code, ((s.after us).write network x).sent = some r →
    network r = .status code → code ≠ 200 → code ≠ 204 →
    (s.after us).write network x = ⟨.error (.status "write" code), s.after us, some r⟩

end FleetBridge.RemoteSink
