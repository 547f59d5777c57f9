import FeatureTrials.Experiment.Basic
import FeatureTrials.Flag.Basic
import FeatureTrials.Proofs.Definitions.Values
import FeatureTrials.Segment

/-!
# Users, rules, segments, flags and experiments are read back

Each record is reread field by field, in the order in which its fields are read. What a field needs
is how its value is reread, and that it is written under its name and under no other.

The times of a segment that does not tell them are the clock reading. They are written like any
others, so a segment is reread as the same one whatever the clock says by then.
-/

namespace FeatureTrials

open Json (Rereads)

/-! ## Users -/

namespace User

theorem distinct_entries (user : User) : user.toJson.entries.Distinct := by
  have names : ["user_id", "email", "country", "attributes"].Nodup := by decide
  refine List.Nodup.sublist ?_ names
  simp only [Json.entries, toJson, Json.fields?, Option.getD_some, List.map_append]
  refine (((List.Sublist.refl _).append (Json.names_optionalField _)).append
    (Json.names_optionalField _)).append ?_
  split
  · exact List.nil_sublist _
  · exact List.Sublist.refl _

theorem entries_eq_nil_iff {attributes : Table AttributeValue} :
    attributes.entries = [] ↔ attributes = .empty := by
  obtain ⟨entries, increasing⟩ := attributes
  rw [Table.empty, Table.mk.injEq]

theorem rereads : Rereads ofJson? ofJson? toJson := by
  refine .of_null rfl ?_
  intro j user proper hread
  simp only [ofJson?, ↓Json.do_eq_some_iff] at hread ⊢
  obtain ⟨fields, hfields, id, hid, email, hemail, country, hcountry, attributes, hattributes,
    heq⟩ := hread
  obtain rfl := Json.fields?_eq_some hfields
  cases heq
  have distinct := distinct_entries ⟨id, email, country, attributes⟩
  refine ⟨_, rfl,
    _, Rereads.text.required proper.fields distinct hid (by simp),
    _, Rereads.text.optional proper.fields distinct hemail (by simp),
    _, Rereads.text.optional proper.fields distinct hcountry (by simp),
    _, AttributeValue.rereads.table.orElse_leftOut proper.fields distinct hattributes ?_, rfl⟩
  -- attributes are left out just when there are none
  intro j
  simp [entries_eq_nil_iff]

end User

/-! ## Rules and segments -/

namespace Rule

theorem distinct_entries (rule : Rule) : rule.toJson.entries.Distinct := by
  have names : ["attribute", "operator", "value", "type"].Nodup := by decide
  refine List.Nodup.sublist ?_ names
  simp only [Json.entries, toJson, Json.fields?, Option.getD_some, List.map_append]
  exact (List.Sublist.refl _).append (Json.names_optionalField _)

theorem rereads : Rereads ofJson? ofJson? toJson := by
  refine .of_null rfl ?_
  intro j rule proper hread
  simp only [ofJson?, ↓Json.do_eq_some_iff] at hread ⊢
  obtain ⟨fields, hfields, subject, hsubject, operator, hoperator, value, hvalue, declared,
    hdeclared, heq⟩ := hread
  obtain rfl := Json.fields?_eq_some hfields
  cases heq
  have distinct := distinct_entries ⟨subject, operator, value, declared⟩
  exact ⟨_, rfl,
    _, Rereads.text.required proper.fields distinct hsubject (by simp),
    _, (Rereads.word Operator.ofName?_name).required proper.fields distinct hoperator (by simp),
    _, AttributeValue.rereads.required proper.fields distinct hvalue (by simp),
    _, (Rereads.word DeclaredType.ofName?_name).optional proper.fields distinct hdeclared
      (by simp), rfl⟩

end Rule

namespace Segment

variable {now : Instant}

/-- A segment is reread at any time as long as the clock reading it may have been created at can be
told. -/
theorem rereads (told : now.told? = some now) (later : Instant) :
    Rereads (ofJson? now) (ofJson? later) toJson := by
  refine .of_null rfl ?_
  intro j segment proper hread
  simp only [ofJson?, ↓Json.do_eq_some_iff] at hread ⊢
  obtain ⟨fields, hfields, id, hid, name, hname, description, hdescription, rules, hrules, tags,
    htags, createdAt, hcreatedAt, updatedAt, hupdatedAt, heq⟩ := hread
  obtain rfl := Json.fields?_eq_some hfields
  cases heq
  have distinct :
      ["id", "name", "description", "rules", "tags", "created_at", "updated_at"].Nodup := by
    decide
  -- a time that was missing has become the clock reading and is written like any other
  have hnow := Instant.ofJson?_toJson told
  exact ⟨_, rfl,
    _, Rereads.text.required proper.fields distinct hid (by simp),
    _, Rereads.text.required proper.fields distinct hname (by simp),
    _, Rereads.text.orElse proper.fields distinct hdescription (by simp) rfl,
    _, Rule.rereads.list.orElse proper.fields distinct hrules (by simp) rfl,
    _, Rereads.texts.orElse proper.fields distinct htags (by simp) rfl,
    _, Instant.rereads.orElse proper.fields distinct hcreatedAt (by simp) hnow,
    _, Instant.rereads.orElse proper.fields distinct hupdatedAt (by simp) hnow, rfl⟩

end Segment

/-! ## Flags -/

namespace Flag

theorem distinct_entries (flag : Flag) : flag.toJson.entries.Distinct := by
  have names :
      ["key", "version", "description", "on", "value", "off_value", "rollout_strategy"].Nodup := by
    decide
  refine List.Nodup.sublist ?_ names
  simp only [Json.entries, toJson, Json.fields?, Option.getD_some, List.map_append]
  exact ((List.Sublist.refl _).append (Json.names_optionalField _)).append
    (Json.names_optionalField _)

theorem readVersion (version : UInt64) :
    (Json.ofNat version.toNat).nat?.map UInt64.ofNat = some version := by
  rw [Json.nat?_ofNat version.toNat_lt, Option.map_some, UInt64.ofNat_toNat]

theorem rereads_version :
    Rereads (fun j => j.nat?.map UInt64.ofNat) (fun j => j.nat?.map UInt64.ofNat)
      fun version => .ofNat version.toNat :=
  .of_null rfl fun {_ version} _ _ => readVersion version

theorem rereads : Rereads ofJson? ofJson? toJson := by
  refine .of_null rfl ?_
  intro j flag proper hread
  simp only [ofJson?, ↓Json.do_eq_some_iff] at hread ⊢
  obtain ⟨fields, hfields, key, hkey, version, hversion, description, hdescription, on, hon,
    value, hvalue, offValue, hoffValue, rolloutStrategy, hrolloutStrategy, heq⟩ := hread
  obtain rfl := Json.fields?_eq_some hfields
  cases heq
  have distinct :=
    distinct_entries ⟨key, version, description, on, value, offValue, rolloutStrategy⟩
  exact ⟨_, rfl,
    _, Rereads.text.required proper.fields distinct hkey (by simp),
    _, rereads_version.orElse proper.fields distinct hversion (by simp) (readVersion 0),
    _, Rereads.text.orElse proper.fields distinct hdescription (by simp) rfl,
    _, Rereads.bool.required proper.fields distinct hon (by simp),
    _, FlagValue.rereads.required proper.fields distinct hvalue (by simp),
    _, FlagValue.rereads.optional proper.fields distinct hoffValue (by simp),
    _, Rereads.text.optional proper.fields distinct hrolloutStrategy (by simp), rfl⟩

end Flag

/-! ## Experiments -/

theorem Interval.rereads : Rereads ofJson? ofJson? toJson := by
  refine .of_null rfl ?_
  intro j interval proper hread
  simp only [ofJson?, ↓Json.do_eq_some_iff] at hread ⊢
  obtain ⟨fields, hfields, lower, hlower, upper, hupper, level, hlevel, heq⟩ := hread
  obtain rfl := Json.fields?_eq_some hfields
  cases heq
  have distinct : ["lower", "upper", "level"].Nodup := by decide
  exact ⟨_, rfl,
    _, Rereads.number.required proper.fields distinct hlower (by simp),
    _, Rereads.number.required proper.fields distinct hupper (by simp),
    _, Rereads.number.required proper.fields distinct hlevel (by simp), rfl⟩

theorem VariantResult.rereads : Rereads ofJson? ofJson? toJson := by
  refine .of_null rfl ?_
  intro j result proper hread
  simp only [ofJson?, ↓Json.do_eq_some_iff] at hread ⊢
  obtain ⟨fields, hfields, variantId, hvariantId, samples, hsamples, conversions, hconversions,
    conversionRate, hconversionRate, confidence, hconfidence, heq⟩ := hread
  obtain rfl := Json.fields?_eq_some hfields
  cases heq
  have distinct :
      ["variant_id", "samples", "conversions", "conversion_rate", "confidence"].Nodup := by
    decide
  exact ⟨_, rfl,
    _, Rereads.text.required proper.fields distinct hvariantId (by simp),
    _, Rereads.nat.required proper.fields distinct hsamples (by simp),
    _, Rereads.nat.required proper.fields distinct hconversions (by simp),
    _, Rereads.number.required proper.fields distinct hconversionRate (by simp),
    _, Interval.rereads.required proper.fields distinct hconfidence (by simp), rfl⟩

namespace Results

theorem distinct_entries (results : Results) : results.toJson.entries.Distinct := by
  have names :
      ["status", "confidence", "significant_result", "winning_variant", "variant_results",
        "start_time", "end_time", "duration", "total_samples", "p_value", "effect_size"].Nodup := by
    decide
  refine List.Nodup.sublist ?_ names
  simp only [Json.entries, toJson, Json.fields?, Option.getD_some, List.map_append]
  exact ((List.Sublist.refl _).append (Json.names_optionalField _)).append (List.Sublist.refl _)

theorem rereads : Rereads ofJson? ofJson? toJson := by
  refine .of_null rfl ?_
  intro j results proper hread
  simp only [ofJson?, ↓Json.do_eq_some_iff] at hread ⊢
  obtain ⟨fields, hfields, verdict, hverdict, confidence, hconfidence, significant, hsignificant,
    winner, hwinner, variants, hvariants, startTime, hstartTime, endTime, hendTime, duration,
    hduration, totalSamples, htotalSamples, pValue, hpValue, effectSize, heffectSize, heq⟩ := hread
  obtain rfl := Json.fields?_eq_some hfields
  cases heq
  have distinct :=
    distinct_entries
      ⟨verdict, confidence, significant, winner, variants, startTime, endTime, duration,
        totalSamples, pValue, effectSize⟩
  exact ⟨_, rfl,
    _, (Rereads.word Verdict.ofName?_name).required proper.fields distinct hverdict (by simp),
    _, Rereads.number.required proper.fields distinct hconfidence (by simp),
    _, Rereads.bool.required proper.fields distinct hsignificant (by simp),
    _, Rereads.text.optional proper.fields distinct hwinner (by simp),
    _, VariantResult.rereads.table.orElse proper.fields distinct hvariants (by simp) rfl,
    _, Instant.rereads.nullable proper.fields distinct hstartTime (by simp),
    _, Instant.rereads.nullable proper.fields distinct hendTime (by simp),
    _, Span.rereads.nullable proper.fields distinct hduration (by simp),
    _, Rereads.nat.required proper.fields distinct htotalSamples (by simp),
    _, Rereads.number.nullable proper.fields distinct hpValue (by simp),
    _, Rereads.number.required proper.fields distinct heffectSize (by simp), rfl⟩

end Results

namespace Variant

theorem distinct_entries (variant : Variant) : variant.toJson.entries.Distinct := by
  have names : ["id", "name", "description", "weight", "is_control", "config"].Nodup := by decide
  have control :
      ((if variant.isControl = true then [("is_control", Json.bool true)] else []).map
        Prod.fst).Sublist ["is_control"] := by
    split
    · exact List.Sublist.refl _
    · exact List.nil_sublist _
  refine List.Nodup.sublist ?_ names
  simp only [Json.entries, toJson, Json.fields?, Option.getD_some, List.map_append]
  exact ((List.Sublist.refl _).append control).append (List.Sublist.refl _)

theorem rereads : Rereads ofJson? ofJson? toJson := by
  refine .of_null rfl ?_
  intro j variant proper hread
  simp only [ofJson?, ↓Json.do_eq_some_iff] at hread ⊢
  obtain ⟨fields, hfields, id, hid, name, hname, description, hdescription, weight, hweight,
    isControl, hisControl, config, hconfig, heq⟩ := hread
  obtain rfl := Json.fields?_eq_some hfields
  cases heq
  have distinct := distinct_entries ⟨id, name, description, weight, isControl, config⟩
  refine ⟨_, rfl,
    _, Rereads.text.required proper.fields distinct hid (by simp),
    _, Rereads.text.orElse proper.fields distinct hname (by simp) rfl,
    _, Rereads.text.orElse proper.fields distinct hdescription (by simp) rfl,
    _, Rereads.number.required proper.fields distinct hweight (by simp),
    _, Rereads.bool.orElse_leftOut proper.fields distinct hisControl ?_,
    _, Rereads.canonical.table.orElse proper.fields distinct hconfig (by simp) rfl, rfl⟩
  -- only a control says so
  intro j
  cases isControl <;> simp

end Variant

namespace Experiment

theorem distinct_entries (experiment : Experiment) : experiment.toJson.entries.Distinct := by
  have names :
      ["id", "name", "description", "status", "type", "flag_key", "start_time", "end_time",
        "duration", "traffic_percent", "variants", "targeting_rules", "user_segments",
        "primary_metric", "secondary_metrics", "guardrail_metrics", "tags", "owner",
        "results"].Nodup := by
    decide
  refine List.Nodup.sublist ?_ names
  simp only [Json.entries, toJson, Json.fields?, Option.getD_some, List.map_append]
  exact (((List.Sublist.refl _).append (Json.names_optionalField _)).append
    (List.Sublist.refl _)).append (Json.names_optionalField _)

theorem rereads : Rereads ofJson? ofJson? toJson := by
  refine .of_null rfl ?_
  intro j experiment proper hread
  simp only [ofJson?, ↓Json.do_eq_some_iff] at hread ⊢
  obtain ⟨fields, hfields, id, hid, name, hname, description, hdescription, status, hstatus, kind,
    hkind, flagKey, hflagKey, startTime, hstartTime, endTime, hendTime, duration, hduration,
    trafficPercent, htrafficPercent, variants, hvariants, targetingRules, htargetingRules,
    segments, hsegments, primaryMetric, hprimaryMetric, secondaryMetrics, hsecondaryMetrics,
    guardrailMetrics, hguardrailMetrics, tags, htags, owner, howner, results, hresults,
    heq⟩ := hread
  obtain rfl := Json.fields?_eq_some hfields
  cases heq
  have distinct :=
    distinct_entries
      ⟨id, name, description, status, kind, flagKey, startTime, endTime, duration, trafficPercent,
        variants, targetingRules, segments, primaryMetric, secondaryMetrics, guardrailMetrics,
        tags, owner, results⟩
  exact ⟨_, rfl,
    _, Rereads.text.required proper.fields distinct hid (by simp),
    _, Rereads.text.required proper.fields distinct hname (by simp),
    _, Rereads.text.orElse proper.fields distinct hdescription (by simp) rfl,
    _, (Rereads.word Status.ofName?_name).orElse proper.fields distinct hstatus (by simp) rfl,
    _, (Rereads.word ExperimentKind.ofName?_name).orElse proper.fields distinct hkind (by simp) rfl,
    _, Rereads.text.optional proper.fields distinct hflagKey (by simp),
    _, Instant.rereads.nullable proper.fields distinct hstartTime (by simp),
    _, Instant.rereads.nullable proper.fields distinct hendTime (by simp),
    _, Span.rereads.nullable proper.fields distinct hduration (by simp),
    _, Rereads.number.required proper.fields distinct htrafficPercent (by simp),
    _, Variant.rereads.list.required proper.fields distinct hvariants (by simp),
    _, Rule.rereads.list.orElse proper.fields distinct htargetingRules (by simp) rfl,
    _, Rereads.texts.orElse proper.fields distinct hsegments (by simp) rfl,
    _, Rereads.text.orElse proper.fields distinct hprimaryMetric (by simp) rfl,
    _, Rereads.texts.orElse proper.fields distinct hsecondaryMetrics (by simp) rfl,
    _, Rereads.texts.orElse proper.fields distinct hguardrailMetrics (by simp) rfl,
    _, Rereads.texts.orElse proper.fields distinct htags (by simp) rfl,
    _, Rereads.text.orElse proper.fields distinct howner (by simp) rfl,
    _, Results.rereads.optional proper.fields distinct hresults (by simp), rfl⟩

end Experiment

end FeatureTrials
