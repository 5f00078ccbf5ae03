import FleetBridge.Proofs.Registration.Reply
import FleetBridge.Proofs.Sample.Batch
import FleetBridge.Proofs.Telemetry.Decode

/-!
The lines of telemetry samples. The names in a message's document come from its sender, and some of
them break the line.
-/
namespace FleetBridge.Telemetry

open Record

/-- Characters that can stand anywhere in a name. -/
def Harmless (s : String) : Prop := '\\' ∉ s.toList ∧ '\n' ∉ s.toList

instance (s : String) : Decidable (Harmless s) := inferInstanceAs (Decidable (_ ∧ _))

theorem Harmless.clean {s : String} (h : Harmless s) : Clean s.toList :=
  ⟨h.2, Sample.closed_of_not_mem h.1⟩

variable {p : Profile} {m : Message} {time : Int}

theorem clean_key {t : String × String} (ht : t ∈ tags p m) : Clean t.1.toList := by
  have hkey : t.1 ∈ ["unit_id", "topic_name", "channel"] :=
    List.mem_map_of_mem (f := Prod.fst) (Table.mem_of_mem_ofList ht)
  have hclean : ∀ k ∈ ["unit_id", "topic_name", "channel"], '\n' ∉ k.toList ∧ Closed k.toList := by
    decide
  exact hclean t.1 hkey

/-- A message makes one record just when the way to each leaf of its document has a name without
newline, not empty and without a backslash at its end. -/
theorem makes_one_record_iff {document : Json} {x : Sample}
    (hdocument : m.payload.text?.bind Json.read? = some document) (hbucket : p.bucket ≠ "")
    (hharmless : Harmless p.bucket) (htags : ∀ t ∈ tags p m, Harmless t.2)
    (hx : sample? p m time = some x) :
    x.OneRecord ↔ ∀ l ∈ document.leaves, Sample.Safe l.1 := by
  obtain ⟨text, -, hread⟩ := Option.bind_eq_some_iff.mp hdocument
  rw [sample?, Option.bind_eq_bind, hdocument, Option.bind_some] at hx
  exact Sample.oneRecord_ofJson?_iff hread hbucket hharmless.clean
    (fun t ht => ⟨clean_key ht, (htags t ht).clean⟩) hx

def report (subject text : String) : Message := ⟨subject, none, Payload.ofText text⟩

theorem report_document (subject text : String) :
    (report subject text).payload.text?.bind Json.read? = Json.read? text := by
  rw [report, Payload.text?_ofText, Option.bind_some]

theorem nested_makes_one_record :
    let p : Profile := ⟨.streets, "streets", ["U1"], "streets data"⟩
    let m := report "U1.streets.pose"
      "\x7b\"ok\":true,\"pose\":[\x7b\"frame, now\":\"a\\nb\"\x7d]\x7d"
    let document : Json := .object [("ok", .bool true),
      ("pose", .array [.object [("frame, now", .string "a\nb")]])]
    let x : Sample := ⟨"streets data", tags p m,
      [("ok", .boolean true), ("pose.0.frame, now", .text "a\nb")], 7⟩
    m.payload.text?.bind Json.read? = some document ∧ p.bucket ≠ "" ∧
      Harmless p.bucket ∧ (∀ t ∈ tags p m, Harmless t.2) ∧ sample? p m 7 = some x ∧
      (∀ l ∈ document.leaves, Sample.Safe l.1) ∧ x.OneRecord := by
  intro p m document x
  have hdocument : m.payload.text?.bind Json.read? = some document := by
    rw [report_document]
    rfl
  have hbucket : p.bucket ≠ "" := by decide
  have hharmless : Harmless p.bucket := by decide
  have htags : ∀ t ∈ tags p m, Harmless t.2 := by decide
  have hx : sample? p m 7 = some x := by
    rw [sample?, Option.bind_eq_bind, hdocument]
    rfl
  have hsafe : ∀ l ∈ document.leaves, Sample.Safe l.1 := by
    have hleaves : document.leaves =
        [(["ok"], .boolean true), (["pose", "0", "frame, now"], .text "a\nb")] := rfl
    rw [hleaves, List.forall_mem_cons, List.forall_mem_singleton]
    constructor <;> constructor <;> decide
  exact ⟨hdocument, hbucket, hharmless, htags, hx, hsafe,
    (makes_one_record_iff hdocument hbucket hharmless htags hx).mpr hsafe⟩

/-- A newline in a name cuts the line in three, and the second part is a record of another unit. -/
theorem second_record_forged :
    ∃ (p : Profile) (m : Message) (x : Sample), p.bucket ≠ "" ∧ Harmless p.bucket ∧
      (∀ t ∈ tags p m, Harmless t.2) ∧ sample? p m 7 = some x ∧ ¬ x.OneRecord ∧
      (split x.line.toList).map (fun s => ofLine? (String.ofList s)) =
        [none, some ⟨"forged=\"b", [("unit_id", "U2")], [("f", .number "1")], 5⟩, none] := by
  let p : Profile := ⟨.platform, "platform", ["U1"], "platform"⟩
  let m := report "U1.platform.door"
    "\x7b\"a\\nforged\":\"b,unit_id=U2 f=1 5\\nz\"\x7d"
  let x : Sample := ⟨"platform", tags p m, [("a\nforged", .text "b,unit_id=U2 f=1 5\nz")], 7⟩
  have hdocument : m.payload.text?.bind Json.read? =
      some (.object [("a\nforged", .string "b,unit_id=U2 f=1 5\nz")]) := by
    rw [report_document]
    rfl
  have hx : sample? p m 7 = some x := by
    rw [sample?, Option.bind_eq_bind, hdocument]
    rfl
  have hsplit : (split x.line.toList).map (fun s => ofLine? (String.ofList s)) =
      [none, some ⟨"forged=\"b", [("unit_id", "U2")], [("f", .number "1")], 5⟩, none] := by
    decide +kernel
  have hthree : (split x.line.toList).length = 3 := by
    rw [← List.length_map, hsplit]
    rfl
  have htags : ∀ t ∈ tags p m, Harmless t.2 := by decide
  refine ⟨p, m, x, by decide, by decide, htags, hx, fun hone => ?_, hsplit⟩
  rw [hone.whole, List.length_singleton] at hthree
  exact absurd hthree (by decide)

end FleetBridge.Telemetry
