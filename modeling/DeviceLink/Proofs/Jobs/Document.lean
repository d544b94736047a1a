import DeviceLink.Bench.Callback
import DeviceLink.Proofs.Json.RoundTrip
/-!
# Documents of jobs

A job document is lent to the user as JSON text and read again when the user copies it. Every
event that carries an execution or an update hands on its document that way, and the copy holds
the document of the service, as long as it does not nest too deep to be read.
-/

namespace DeviceLink.Jobs

open Bench (Callback)

/-- The call that an event leads to at the handle that listens to its topic. -/
def Event.call? (e : Event) (ioError : Int) : Option Callback :=
  ((Queue.callback (.event e ioError)).map .queue).or
    ((Job.callback (.event e ioError)).map .job)

/-- The events that carry an execution or an update, and the document in it. -/
inductive Event.Carries : Event → Option Json.Value → Prop
  | described {a : ExecutionAnswer} {x : Execution} (h : a.execution = some x) :
    Carries (.describeAccepted (some a)) x.document
  | started {a : ExecutionAnswer} {x : Execution} (h : a.execution = some x) :
    Carries (.startNextAccepted (some a)) x.document
  | changed {c : NextChange} {x : Execution} (h : c.execution = some x) :
    Carries (.nextExecutionChanged (some c)) x.document
  | updated (u : UpdateAnswer) : Carries (.updateAccepted (some u)) u.document

theorem toList_ofExecution {o : Option Execution} {x : Execution} (h : o = some x) :
    (o.map Info.ofExecution).toList = [Info.ofExecution x] := by
  rw [h]
  rfl

/-- Such an event leads to one call, which lends its document. -/
theorem Event.Carries.lent {e : Event} {document : Option Json.Value} (h : e.Carries document)
    (ioError : Int) : ∃ call info, e.call? ioError = some call ∧ call.infos = [info] ∧
      info.document = lendDocument document := by
  cases h with
  | described h => exact ⟨_, _, rfl, toList_ofExecution h, rfl⟩
  | started h => exact ⟨_, _, rfl, toList_ofExecution h, rfl⟩
  | changed h => exact ⟨_, _, rfl, toList_ofExecution h, rfl⟩
  | updated u => exact ⟨_, _, rfl, rfl, rfl⟩

/-- A lent document is there just when there is one, and the copy has the document if it is read
again. -/
theorem toOwned_lendDocument {info : Info} {document : Option Json.Value}
    (h : info.document = lendDocument document) :
    info.document.owned = false ∧
      (document = none → info.document.isEmpty = true ∧ info.toOwned.document = none) ∧
      ∀ v, document = some v → v.WellFormed → info.document.isEmpty = false ∧
        info.toOwned.document = if v.nesting ≤ Json.maxNesting then some v else none := by
  refine ⟨?_, ?_, ?_⟩
  · rw [h]
    cases document <;> rfl
  · rintro rfl
    have hempty : info.document.isEmpty = true := by rw [h]; rfl
    exact ⟨hempty, if_pos hempty⟩
  · rintro v rfl hv
    have hbytes : info.document.bytes = Utf8.encode v.render := by rw [h]; rfl
    have hempty : info.document.isEmpty = false := by
      rw [Buffer.isEmpty, hbytes]
      exact List.isEmpty_eq_false_iff.2 (Json.encode_render_ne_nil v)
    refine ⟨hempty, ?_⟩
    rw [Info.toOwned, hempty, hbytes]
    exact Json.ofBytes?_encode hv

/-- Every event that carries an execution or an update leads to one call, which lends one
execution and never gives away its bytes. Without a document these are none, and the copy has
none. With one there are some, and the copy has the very document if that nests at most 127
levels, and none if it nests deeper. -/
theorem document_survives {e : Event} {document : Option Json.Value} (h : e.Carries document)
    (ioError : Int) : ∃ call info, e.call? ioError = some call ∧ call.infos = [info] ∧
      info.document.owned = false ∧
      (document = none → info.document.isEmpty = true ∧ info.toOwned.document = none) ∧
      ∀ v, document = some v → v.WellFormed → info.document.isEmpty = false ∧
        info.toOwned.document = if v.nesting ≤ 127 then some v else none := by
  obtain ⟨call, info, hcall, hinfos, hdocument⟩ := h.lent ioError
  exact ⟨call, info, hcall, hinfos, toOwned_lendDocument hdocument⟩

/-- The document null, and one with escapes, the extreme integers and a double, are copied as they
are. -/
theorem document_survives_update :
    let v : Json.Value := .object [("a\"", .array [.null, .bool true, .int Json.minInt,
      .int Json.maxInt, .double ⟨0x3FE0000000000000⟩]), ("é", .string "\x01\n/")]
    let e (v : Json.Value) : Event := .updateAccepted (some { document := some v })
    ∀ u ∈ [.null, v], u.WellFormed ∧ (e u).Carries (some u) ∧
      ∃ call info, (e u).call? 0 = some call ∧ call.infos = [info] ∧
        info.toOwned.document = some u := by
  intro v e
  have hcopied (u : Json.Value) (hu : u.WellFormed) (hnests : u.nesting ≤ 127) :
      u.WellFormed ∧ (e u).Carries (some u) ∧ ∃ call info, (e u).call? 0 = some call ∧
        call.infos = [info] ∧ info.toOwned.document = some u := by
    obtain ⟨call, info, hcall, hinfos, -, -, hdocument⟩ :=
      document_survives (Event.Carries.updated { document := some u }) 0
    exact ⟨hu, .updated _, call, info, hcall, hinfos, (hdocument u rfl hu).2.trans (if_pos hnests)⟩
  have hv : v.WellFormed :=
    ⟨by decide, ⟨trivial, trivial, ⟨by decide, by decide⟩, ⟨by decide, by decide⟩, rfl, trivial⟩,
      trivial, trivial⟩
  exact List.forall_mem_cons.2 ⟨hcopied _ trivial (by decide),
    List.forall_mem_singleton.2 (hcopied v hv (by decide))⟩

end DeviceLink.Jobs
