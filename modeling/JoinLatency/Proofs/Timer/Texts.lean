import JoinLatency.Proofs.Timer.Origins

/-! Traces in texts. A trace is read back from its text in every style if and only if its numbers
have a place in data texts, whatever the message of its stop reason is.
-/

namespace JoinLatency

theorem SampleKind.choice?_name (kind : SampleKind)
    : Json.choice? names (.ofString kind.name) = some kind := by
  cases kind <;> rfl

/-- The numbers of a sample have a place in data texts: its count has 64 bits, and its times are
read back.
-/
structure Sample.Representable (sample : Sample Float) : Prop where
  count : sample.count < Json.countLimit
  elapsed : Json.ReadsBack sample.elapsed
  decayed : Json.ReadsBack sample.decayed

/-- A sample is read from its record if and only if each of its numbers is. -/
theorem Sample.ofJson?_toJson_iff {sample : Sample Float}
    : ofJson? sample.toJson = some sample ↔ sample.Representable := by
  have fields
      : ({ names := ["count", "elapsed_seconds", "decayed_seconds", "kind"] } : Json.Shape).fields?
          sample.toJson
        = some [some (.ofNat sample.count), some (.ofFloat sample.elapsed),
            some (.ofFloat sample.decayed), some (.ofString sample.kind.name)] := rfl
  simp only [ofJson?, fields, Json.required?, Option.bind_eq_bind, Option.bind_some,
    sample.kind.choice?_name]
  constructor
  · intro read
    obtain ⟨count, ownCount, read⟩ := Option.bind_eq_some_iff.mp read
    obtain ⟨elapsed, ownElapsed, read⟩ := Option.bind_eq_some_iff.mp read
    obtain ⟨decayed, ownDecayed, read⟩ := Option.bind_eq_some_iff.mp read
    obtain ⟨sameCount, sameElapsed, sameDecayed, _⟩ := Sample.mk.inj (Option.some.inj read)
    rw [sameCount] at ownCount
    rw [sameElapsed] at ownElapsed
    rw [sameDecayed] at ownDecayed
    exact ⟨Json.natural?_ofNat_iff.mp ownCount, ownElapsed, ownDecayed⟩
  · rintro ⟨count, elapsed, decayed⟩
    rw [Json.natural?_ofNat count, Option.bind_some, elapsed, Option.bind_some, decayed]
    rfl

namespace Trace

/-- The numbers of a trace have a place in data texts. Nothing is asked of its stop reason. -/
structure Representable (trace : Trace Float) : Prop where
  samples : ∀ sample ∈ trace.samples, sample.Representable
  fetched : trace.fetched < Json.countLimit

/-- A trace is read from its record if and only if its samples and its number of rows are. -/
theorem ofJson?_toJson_iff {trace : Trace Float}
    : ofJson? trace.toJson = some trace ↔ trace.Representable := by
  have fields : ({ names := ["samples", "fetched", "stop"] } : Json.Shape).fields? trace.toJson
      = some [some (.ofList Sample.toJson trace.samples), some (.ofNat trace.fetched),
          some trace.stop.toJson] := rfl
  constructor
  · intro read
    simp only [ofJson?, fields, Json.required?, Option.bind_eq_bind, Option.bind_some,
      trace.stop.ofJson?_toJson] at read
    obtain ⟨samples, listed, read⟩ := Option.bind_eq_some_iff.mp read
    obtain ⟨fetched, counted, read⟩ := Option.bind_eq_some_iff.mp read
    obtain ⟨sameSamples, sameFetched, _⟩ := Trace.mk.inj (Option.some.inj read)
    rw [sameSamples] at listed
    rw [sameFetched] at counted
    refine ⟨fun sample member => ?_, Json.natural?_ofNat_iff.mp counted⟩
    exact Sample.ofJson?_toJson_iff.mp (Json.list?_ofList_iff.mp listed sample member)
  · rintro ⟨samples, fetched⟩
    exact ofJson?_toJson
      (fun sample member => Sample.ofJson?_toJson_iff.mpr (samples sample member)) fetched

/-- A trace is read back from its text, in every style that breaks lines with blanks only, if and
only if its counts have 64 bits and its times are finite and stand in the text as themselves. The
kinds of its samples and its stop reason, with whatever message, are read back in any case.
-/
theorem read_text_iff (trace : Trace Float) {style : Json.Style} (blank : style.IsBlank)
    : (Json.read? (String.ofList (trace.toJson.write style 0))).bind ofJson? = some trace
      ↔ trace.fetched < Json.countLimit
        ∧ ∀ sample ∈ trace.samples,
            sample.count < Json.countLimit
            ∧ ∀ time ∈ [sample.elapsed, sample.decayed],
                Decimal.magnitudeBits time < Decimal.infinityBits
                ∧ Json.float? (.number (Decimal.Layout.data.text time).toList) = some time := by
  rw [Json.read?_write trace.wellFormed_toJson blank, Option.bind_some, ofJson?_toJson_iff]
  simp only [← Json.readsBack_iff, List.forall_mem_cons, List.not_mem_nil, false_imp_iff,
    implies_true, and_true]
  constructor
  · rintro ⟨samples, fetched⟩
    exact ⟨fetched, fun sample member =>
      ⟨(samples sample member).count, (samples sample member).elapsed,
        (samples sample member).decayed⟩⟩
  · rintro ⟨fetched, samples⟩
    exact ⟨fun sample member =>
      ⟨(samples sample member).1, (samples sample member).2.1, (samples sample member).2.2⟩,
      fetched⟩

/-- A trace with the largest count, a negative zero and a message to escape, and a trace with an
infinite time.
-/
theorem read_text_iff_escaped
    : ∃ trace infinite : Trace Float,
        trace.stop = .failed "gone: \"a\\b\"\n\x01\u2028"
        ∧ trace.samples.map (·.count) = [3, 18446744073709551615]
        ∧ (Json.read? trace.toJson.compact).bind ofJson? = some trace
        ∧ infinite.samples.map (·.count) = [1]
        ∧ (Json.read? infinite.toJson.indented).bind ofJson? ≠ some infinite := by
  let trace : Trace Float := {
    samples := [⟨3, 0.1, -0.0, .checkpoint⟩, ⟨18446744073709551615, 1.5, 1e-7, .overflow⟩]
    fetched := 18446744073709551615
    stop := .failed "gone: \"a\\b\"\n\x01\u2028"
  }
  let infinite : Trace Float := {
    samples := [⟨1, Decimal.ofMagnitude false Decimal.infinityBits, 0, .checkpoint⟩]
    fetched := 1
    stop := .canceled "late"
  }
  refine ⟨trace, infinite, rfl, rfl, ?_, rfl, fun read => ?_⟩
  · exact (trace.read_text_iff Json.Style.isBlank_compact).mpr (by decide +kernel)
  · obtain ⟨_, samples⟩ := (infinite.read_text_iff Json.Style.isBlank_indented).mp read
    have finite := ((samples _ List.mem_cons_self).2 _ List.mem_cons_self).1
    exact absurd finite (by decide +kernel)

end Trace

end JoinLatency
