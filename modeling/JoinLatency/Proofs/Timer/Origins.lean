import JoinLatency.Proofs.Json.Records
import JoinLatency.Proofs.Outcome
import JoinLatency.Proofs.Timer.Traces

/-! Where traces come from. A run and a list of samples leave a trace with a sample in it, but a
data text is read as it stands, and one whose list of samples is empty gives a trace without any.
-/

namespace JoinLatency

-----------------------------------------------------------------------------------------
-- Traces in data values
-----------------------------------------------------------------------------------------

theorem Sample.wellFormed_toJson (sample : Sample Float) : sample.toJson.WellFormed :=
  Json.wellFormed_record
    (by simp [Json.wellFormed_ofNat, Json.wellFormed_ofFloat, Json.wellFormed_ofString])

theorem StopReason.wellFormed_toJson (stop : StopReason) : stop.toJson.WellFormed := by
  cases stop <;> exact Json.wellFormed_record (by simp [Json.wellFormed_ofString])

theorem StopReason.ofJson?_toJson (stop : StopReason) : ofJson? stop.toJson = some stop := by
  cases stop <;> rfl

namespace Trace

theorem wellFormed_toJson (trace : Trace Float) : trace.toJson.WellFormed := by
  have samples := Json.wellFormed_ofList Sample.wellFormed_toJson trace.samples
  exact Json.wellFormed_record
    (by simp [samples, Json.wellFormed_ofNat, StopReason.wellFormed_toJson])

/-- A trace is read from its record if its samples are read and its rows can be counted. -/
theorem ofJson?_toJson {trace : Trace Float}
    (samples : ∀ sample ∈ trace.samples, Sample.ofJson? sample.toJson = some sample)
    (bound : trace.fetched < Json.countLimit)
    : ofJson? trace.toJson = some trace := by
  have fields : ({ names := ["samples", "fetched", "stop"] } : Json.Shape).fields? trace.toJson
      = some [some (.ofList Sample.toJson trace.samples), some (.ofNat trace.fetched),
          some trace.stop.toJson] := rfl
  simp [ofJson?, fields, Json.required?, Json.list?_ofList samples, Json.natural?_ofNat bound,
    StopReason.ofJson?_toJson]

/-- A data value whose samples, by their name or in the first place, are an empty list. -/
inductive HoldsNoSamples : Json → Prop
  | named {members : List (Option String × Json)}
    (member : (some "samples", .array []) ∈ members)
    : HoldsNoSamples (.object members)
  | first (rest : List Json) : HoldsNoSamples (.array (.array [] :: rest))

/-- What is read has the samples of its value, none if and only if these are an empty list. -/
theorem samples_eq_nil_iff {value : Json} {trace : Trace Float} (h : ofJson? value = some trace)
    : trace.samples = [] ↔ HoldsNoSamples value := by
  obtain ⟨fields, found, h⟩ := Option.bind_eq_some_iff.mp h
  split at h
  next samples fetched stop =>
    obtain ⟨listed, decoded, h⟩ := Option.bind_eq_some_iff.mp h
    obtain ⟨rows, _, h⟩ := Option.bind_eq_some_iff.mp h
    obtain ⟨reason, _, h⟩ := Option.bind_eq_some_iff.mp h
    obtain rfl := Option.some.inj h
    obtain ⟨content, rfl, decoded⟩ := Option.bind_eq_some_iff.mp decoded
    refine (Json.eq_nil_of_list? decoded).trans ?_
    rcases Json.Shape.first_of_fields rfl found with ⟨members, rfl, held⟩ | ⟨items, rfl⟩
    · constructor
      · intro empty
        exact .named ((held _).mpr empty.symm)
      · rintro ⟨member⟩
        exact ((held _).mp member).symm
    · constructor
      · rintro rfl
        exact .first items
      · rintro ⟨⟩
        rfl
  next other => cases h

-----------------------------------------------------------------------------------------
-- Traces without samples
-----------------------------------------------------------------------------------------

section

variable {R : Type}

theorem isEmpty_iff {trace : Trace R} : trace.isEmpty = true ↔ trace.samples = [] :=
  List.isEmpty_iff

theorem terminal?_eq_none_iff {trace : Trace R} : trace.terminal? = none ↔ trace.isEmpty = true :=
  List.getLast?_eq_none_iff.trans isEmpty_iff.symm

theorem isEmpty_of_terminal? {trace : Trace R} {sample : Sample R}
    (h : trace.terminal? = some sample)
    : trace.isEmpty = false := by
  rw [← Bool.not_eq_true, ← terminal?_eq_none_iff, h]
  exact Option.some_ne_none sample

variable [Seconds R]

/-- The floor sample stands in for missing ones, so that there is a last sample. -/
theorem terminal?_withFloor (samples : List (Sample R)) (fetched : Nat) (stop : StopReason)
    : (withFloor samples fetched stop).terminal? = some (samples.getLast?.getD .floor) := by
  cases samples with
  | nil => rfl
  | cons sample rest => simp [withFloor, terminal?, List.getLast?_eq_some_getLast]

/-- A run samples its last row, or the floor. -/
theorem terminal?_of_run {W σ : Type} [Sink W] [RowSource σ] {timer : Timer R} {source : σ}
    {log : W} {trace : Trace R} (returned : (timer.run source log).result = .ok trace)
    : ∃ sample, trace.terminal? = some sample := by
  obtain ⟨readings, _, stop, _, rfl, _⟩ := Timer.run_ok returned
  have last := timer.schedule.getLast?_shape readings.length
  rw [← timer.map_rowSamples (RowSource.now source) readings, List.getLast?_map] at last
  obtain ⟨_, last, _⟩ := Option.map_eq_some_iff.mp last
  obtain ⟨sample, found, _⟩ := Option.map_eq_some_iff.mp last
  exact ⟨sample, found⟩

end

/-- Every trace that a run returns, and every trace that is put together from samples, has a last
sample and so is not empty. A trace that is read from a text is empty if and only if the text holds
an empty list of samples, and such texts are read, whatever number of rows and stop they tell of.
-/
theorem empty_only_from_text {R W σ : Type} [Seconds R] [Sink W] [RowSource σ] (timer : Timer R)
    (source : σ) (log : W) (samples : List (Sample R)) (stop : StopReason) (text : String)
    (fetched : Nat)
    : (∀ trace, (timer.run source log).result = .ok trace →
        trace.isEmpty = false ∧ ∃ sample, trace.terminal? = some sample)
      ∧ ((ofSamples samples stop).isEmpty = false
        ∧ (ofSamples samples stop).terminal? = some (samples.getLast?.getD .floor))
      ∧ (∀ trace, (Json.read? text).bind ofJson? = some trace →
          (trace.isEmpty = true ↔ ∃ value, Json.read? text = some value ∧ HoldsNoSamples value)
          ∧ (trace.terminal? = none ↔ trace.isEmpty = true))
      ∧ (fetched < Json.countLimit →
          let empty : Trace Float := { samples := [], fetched, stop }
          (Json.read? empty.toJson.compact).bind ofJson? = some empty) := by
  refine ⟨?_, ?_, ?_, ?_⟩
  · intro trace returned
    obtain ⟨sample, last⟩ := terminal?_of_run returned
    exact ⟨isEmpty_of_terminal? last, sample, last⟩
  · have last := terminal?_withFloor samples ((samples.getLast?.map (·.count)).getD 0) stop
    exact ⟨isEmpty_of_terminal? last, last⟩
  · intro trace read
    obtain ⟨value, parsed, decoded⟩ := Option.bind_eq_some_iff.mp read
    refine ⟨?_, terminal?_eq_none_iff⟩
    rw [isEmpty_iff, samples_eq_nil_iff decoded, parsed]
    constructor
    · exact fun none => ⟨value, rfl, none⟩
    · rintro ⟨_, ⟨⟩, none⟩
      exact none
  · intro bound empty
    rw [Json.read?_compact empty.wellFormed_toJson, Option.bind_some]
    exact ofJson?_toJson (by simp [empty]) bound

/-- A run that is canceled before its first row, and a text in which an empty list stands in the
place of the samples.
-/
theorem empty_only_from_text_list
    : ∃ (timer : Timer Float) (script : Script) (run read : Trace Float) (text : String),
        (timer.run script ({} : Log)).result = .ok run
        ∧ run.isEmpty = false
        ∧ (Json.read? text).bind ofJson? = some read
        ∧ read.isEmpty = true
        ∧ ∃ value, Json.read? text = some value ∧ HoldsNoSamples value := by
  let timer : Timer Float := {
    schedule := ⟨[2], by simp, by simp, by simp [Increasing]⟩
    sigma := 0.5
  }
  let script : Script := { reading := ⟨0⟩, events := [(⟨5⟩, .failed (.canceled "late"))] }
  let text := "[[], 2, \x7b\"reason\": \"exhausted\"\x7d]"
  let read : Trace Float := { samples := [], fetched := 2, stop := .exhausted }
  let run : Trace Float := .ofSamples [] (.canceled "late")
  have returned : (timer.run script ({} : Log)).result = .ok run :=
    toOption_eq_some.mp (by decide +kernel)
  have decoded : (Json.read? text).bind ofJson? = some read := by decide +kernel
  obtain ⟨runs, _, texts, _⟩ := empty_only_from_text timer script ({} : Log) [] .exhausted text 2
  have empty : read.isEmpty = true := rfl
  exact ⟨timer, script, run, read, text, returned, (runs run returned).1, decoded, empty,
    (texts read decoded).1.mp empty⟩

/-- A text of a trace without rows and without the floor sample is read as a trace without a last
sample.
-/
theorem empty_trace_is_read
    : ∃ trace : Trace Float,
        (Json.read?
          "\x7b\"samples\":[],\"fetched\":0,\"stop\":\x7b\"reason\":\"exhausted\"\x7d\x7d").bind
          ofJson? = some trace
        ∧ trace.isEmpty = true
        ∧ trace.terminal? = none :=
  ⟨{ samples := [], fetched := 0, stop := .exhausted }, by decide +kernel, rfl, rfl⟩

end Trace

end JoinLatency
