import FeatureTrials.Engine.Operation
import FeatureTrials.Engine.Rollouts

/-!
# What is known about a user and does not matter

An evaluation depends on a user through their id and through the attributes that the experiment in
the lead looks at, in its targeting rules and in those of its segments. Two users who agree on these
cannot be told apart by it, neither by the answer nor by what is put on record, logged or reported.

* `Experiment.subjects` — the attributes that an experiment looks at.
* `User.AgreesOn` — two users have one id, and the same values for some attributes.
* `User.Indistinct` — nothing that is asked of rules, segments, experiments or engines tells two
  users apart. An explicit null is indistinct from an absent value, and so are open attributes with
  the name of a fixed one from none.
-/

namespace FeatureTrials

variable {user other : User}

/-! ## Attributes that are looked at -/

/-- The attributes that rules look at. -/
def Rule.subjects (rules : List Rule) : List String := rules.map (·.subject)

/-- The attributes that decide who takes part in an experiment, by the targeting rules and by the
rules of the listed segments that are registered. -/
def Experiment.subjects (experiment : Experiment) (registered : Table Segment) : List String :=
  Rule.subjects experiment.targetingRules ++
    (experiment.segments.filterMap registered.get?).flatMap fun segment =>
      Rule.subjects segment.rules

namespace User

/-- Both users have one id, and the same value for each of some attributes. -/
structure AgreesOn (names : List String) (user other : User) : Prop where
  id_eq : user.id = other.id
  attribute?_eq : ∀ name ∈ names, user.attribute? name = other.attribute? name

theorem AgreesOn.mono {names fewer : List String} (agrees : AgreesOn names user other)
    (subset : fewer ⊆ names) : AgreesOn fewer user other :=
  ⟨agrees.id_eq, fun name hname => agrees.attribute?_eq name (subset hname)⟩

end User

/-! ## Decisions that depend on them alone -/

theorem Rule.matchesUser_congr {rule : Rule}
    (same : user.attribute? rule.subject = other.attribute? rule.subject) :
    rule.matchesUser user = rule.matchesUser other := by
  rw [matchesUser, matchesUser, same]

theorem Rule.allMatch_congr {rules : List Rule} (agrees : user.AgreesOn (subjects rules) other) :
    allMatch rules user = allMatch rules other := by
  rw [allMatch, allMatch, Bool.eq_iff_iff, List.all_eq_true, List.all_eq_true]
  refine forall₂_congr fun rule hrule => ?_
  rw [matchesUser_congr (agrees.attribute?_eq _ (List.mem_map_of_mem hrule))]

namespace Experiment

variable {experiment : Experiment} {registered : Table Segment}

theorem segmentsAdmit_congr (enabled : Bool)
    (agrees : user.AgreesOn (experiment.subjects registered) other) :
    experiment.segmentsAdmit registered enabled user =
      experiment.segmentsAdmit registered enabled other := by
  have hany : ((experiment.segments.filterMap registered.get?).any (·.contains user)) =
      (experiment.segments.filterMap registered.get?).any (·.contains other) := by
    rw [Bool.eq_iff_iff, List.any_eq_true, List.any_eq_true]
    refine exists_congr fun segment => and_congr_right fun hsegment => ?_
    have hcontains : segment.contains user = segment.contains other := by
      refine Rule.allMatch_congr (agrees.mono fun name hname => ?_)
      exact List.mem_append_right _ (List.mem_flatMap.mpr ⟨segment, hsegment, hname⟩)
    rw [hcontains]
  rw [segmentsAdmit, segmentsAdmit, hany]

/-- Who takes part, and in which arm, depends on the id and on the attributes that are looked at. -/
theorem assign_congr (enabled : Bool)
    (agrees : user.AgreesOn (experiment.subjects registered) other) :
    experiment.assign registered enabled user = experiment.assign registered enabled other := by
  have htargeted : Rule.allMatch experiment.targetingRules user =
      Rule.allMatch experiment.targetingRules other :=
    Rule.allMatch_congr (agrees.mono (List.subset_append_left _ _))
  have htraffic : experiment.trafficAdmits user = experiment.trafficAdmits other := by
    rw [trafficAdmits, trafficAdmits, agrees.id_eq]
  rw [assign, assign, admits, admits, htargeted, segmentsAdmit_congr enabled agrees, htraffic,
    agrees.id_eq]

end Experiment

theorem Progress.reaches_congr (same : user.id = other.id) (progress : Progress)
    (strategy : Strategy) (now : Instant) :
    progress.reaches strategy user now = progress.reaches strategy other now := by
  rw [reaches, reaches, same]

namespace Engine

variable {engine : Engine} {flagKey : String} {now : Instant}

theorem assignment?_congr
    (agrees : ∀ e, engine.experimentFor? flagKey = some e →
      user.AgreesOn (e.subjects engine.segments) other) :
    engine.assignment? flagKey user = engine.assignment? flagKey other := by
  have hlead : ∀ e, engine.experimentFor? flagKey = some e →
      e.assign engine.segments engine.config.segmentationEnabled user =
        e.assign engine.segments engine.config.segmentationEnabled other :=
    fun e hlead => Experiment.assign_congr _ (agrees e hlead)
  rw [assignment?, assignment?]
  generalize engine.experimentFor? flagKey = lead at hlead
  cases lead with
  | none => simp only [Option.bind_none]
  | some e => simp only [Option.bind_some, hlead e rfl]

theorem gate_congr (same : user.id = other.id) (flag : Flag) :
    engine.gate flag user now = engine.gate flag other now := by
  simp only [gate, Progress.reaches_congr same]

theorem baseDetail_congr (same : user.id = other.id) (default : FlagValue) :
    engine.baseDetail flagKey user default now = engine.baseDetail flagKey other default now := by
  simp only [baseDetail, gate_congr same]

/-- Users of one id who agree on what the experiment in the lead looks at are evaluated alike. -/
theorem evaluate_congr (same : user.id = other.id)
    (agrees : ∀ e, engine.experimentFor? flagKey = some e →
      user.AgreesOn (e.subjects engine.segments) other) (default : FlagValue) :
    engine.evaluate flagKey user default now = engine.evaluate flagKey other default now := by
  have hdetail (assignment : Option Assignment) :
      engine.detailOf assignment flagKey user default now =
        engine.detailOf assignment flagKey other default now := by
    simp only [detailOf, baseDetail_congr same]
  have hexposed (assignment : Assignment) :
      engine.recordExposure assignment user now = engine.recordExposure assignment other now := by
    rw [recordExposure, recordExposure, same]
  have hevaluated (exposed : Engine) (detail : Detail FlagValue) :
      exposed.recordEvaluation flagKey user detail default now =
        exposed.recordEvaluation flagKey other detail default now := by
    rw [recordEvaluation, recordEvaluation, same]
  have hnotices : engine.gateNotices flagKey user now = engine.gateNotices flagKey other now := by
    simp only [gateNotices, gate_congr same]
  simp only [evaluate, assignment?_congr agrees, hdetail, hexposed, hevaluated, hnotices]

end Engine

/-! ## Users that nothing tells apart -/

/-- Nothing that is asked of rules, segments, experiments or engines tells the users apart. -/
structure User.Indistinct (user other : User) : Prop where
  matchesUser : ∀ rule : Rule, rule.matchesUser user = rule.matchesUser other
  contains : ∀ segment : Segment, segment.contains user = segment.contains other
  assign : ∀ (experiment : Experiment) (registered : Table Segment) (enabled : Bool),
    experiment.assign registered enabled user = experiment.assign registered enabled other
  isMember : ∀ (engine : Engine) (id : String), engine.isMember id user = engine.isMember id other
  reaches : ∀ (engine : Engine) (id : String) (now : Instant),
    engine.reaches id user now = engine.reaches id other now
  evaluate : ∀ (engine : Engine) (flagKey : String) (default : FlagValue) (now : Instant),
    engine.evaluate flagKey user default now = engine.evaluate flagKey other default now

namespace User

/-- Users who agree on every attribute are indistinct. -/
theorem Indistinct.of_agreesOn (agrees : ∀ names, AgreesOn names user other) :
    Indistinct user other where
  matchesUser rule :=
    Rule.matchesUser_congr ((agrees [rule.subject]).attribute?_eq _ (List.mem_singleton_self _))
  contains segment := Rule.allMatch_congr (agrees _)
  assign experiment registered enabled := Experiment.assign_congr enabled (agrees _)
  isMember engine id := by
    have hcontains (segment : Segment) : segment.contains user = segment.contains other :=
      Rule.allMatch_congr (agrees _)
    simp only [Engine.isMember, hcontains]
  reaches engine id now := by
    simp only [Engine.reaches, Progress.reaches_congr (agrees []).id_eq]
  evaluate engine flagKey default now :=
    Engine.evaluate_congr (agrees []).id_eq (fun _ _ => agrees _) default

/-- The names under which rules see the fixed attributes of a user. -/
def fixedNames : List String := ["user_id", "email", "country"]

/-- Takes an open attribute away. -/
def withoutAttribute (user : User) (name : String) : User :=
  { user with attributes := user.attributes.erase name }

/-- The open attributes only count under names that no fixed one has. -/
theorem attribute?_congr {name : String} (hid : user.id = other.id)
    (hemail : user.email = other.email) (hcountry : user.country = other.country)
    (hopen : name ∉ fixedNames →
      (user.attributes.get? name).filter (fun value => !value.isNull) =
        (other.attributes.get? name).filter fun value => !value.isNull) :
    user.attribute? name = other.attribute? name := by
  by_cases hfixed : name ∈ fixedNames
  · simp only [fixedNames, List.mem_cons, List.not_mem_nil, or_false] at hfixed
    rcases hfixed with rfl | rfl | rfl <;> simp [attribute?, hid, hemail, hcountry]
  · have hopened := hopen hfixed
    simp only [fixedNames, List.mem_cons, List.not_mem_nil, or_false, not_or] at hfixed
    simp only [attribute?, hfixed, if_false, hopened]

/-- An explicit null is as good as no value. -/
theorem indistinct_null (user : User) (name : String) :
    Indistinct (user.withAttribute name .null) (user.withoutAttribute name) := by
  refine .of_agreesOn fun names => ⟨rfl, fun query _ => attribute?_congr rfl rfl rfl fun _ => ?_⟩
  simp only [withAttribute, withoutAttribute, Table.get?_insert, Table.get?_erase]
  split
  · rfl
  · rfl

/-- An open attribute with the name of a fixed one is never seen. -/
theorem indistinct_fixed (user : User) {name : String} (fixed : name ∈ fixedNames)
    (value : AttributeValue) : Indistinct (user.withAttribute name value) user := by
  refine .of_agreesOn fun names =>
    ⟨rfl, fun query _ => attribute?_congr rfl rfl rfl fun hquery => ?_⟩
  have hne : query ≠ name := fun heq => hquery (heq ▸ fixed)
  rw [withAttribute, Table.get?_insert_of_ne _ _ hne]

end User

/-! ## Irrelevant attributes -/

/-- **Other attributes do not matter.** An evaluation of a flag has the same outcome, the answer and
everything that is put on record, for users of one id who agree on the attributes that the
experiment in the lead looks at. In particular a null is as good as no value, and an open attribute
with the name of a fixed one might as well not be there: nothing at all depends on them. -/
theorem Engine.irrelevant_attributes (engine : Engine) (flagKey : String) (default : FlagValue)
    (now : Instant) :
    (∀ user other : User, user.id = other.id →
      (∀ e, engine.experimentFor? flagKey = some e →
        ∀ name ∈ e.subjects engine.segments, user.attribute? name = other.attribute? name) →
      engine.evaluate flagKey user default now = engine.evaluate flagKey other default now) ∧
    (∀ (user : User) (name : String),
      (user.withAttribute name .null).Indistinct (user.withoutAttribute name)) ∧
    (∀ (user : User) (name : String) (value : AttributeValue), name ∈ User.fixedNames →
      (user.withAttribute name value).Indistinct user) := by
  refine ⟨fun user other same agree => ?_, User.indistinct_null, fun user name value fixed => ?_⟩
  · exact evaluate_congr same (fun e hlead => ⟨same, agree e hlead⟩) default
  · exact user.indistinct_fixed fixed value

/-! ### One user in two lights

An offer is made to premium users in one country. What else is known about a user does not matter,
and neither does another country among the open attributes. -/

/-- Which of two offers is taken up more often. -/
def offers : Experiment :=
  { id := "offers", name := "Offers", flagKey := some "offer"
    variants := [(Variant.named "month" 1.0).withValue (.str "a free month"),
      (Variant.named "mug" 1.0).withValue (.str "a mug")]
    targetingRules := [⟨"country", .equals, .text "BR", none⟩]
    segments := ["premium_users", "nobody"] }

/-- An engine on which the comparison is running. -/
def offersEngine : Engine :=
  (Engine.standard (.ofNanos 0)).engine.run
    [(.ofNanos 1, .createExperiment offers), (.ofNanos 2, .startExperiment "offers")]

/-- A premium user. -/
def customer : User :=
  { id := "ann", country := some "BR"
    attributes := .ofList [("subscription_tier", .text "premium")] }

/-- The same user, of whom more is known. -/
def knownCustomer : User :=
  { customer with email := some "ann@company.com" }.withAttributes
    [("seats", .null), ("country", .text "PT"), ("age", .number 31.0)]

theorem Engine.irrelevant_attributes_offers :
    (customer.attribute? "email").isSome ≠ (knownCustomer.attribute? "email").isSome ∧
      (customer.attribute? "age").isSome ≠ (knownCustomer.attribute? "age").isSome ∧
      (offersEngine.experimentFor? "offer").map (·.subjects offersEngine.segments) =
        some ["country", "subscription_tier"] ∧
      (offersEngine.evaluate "offer" customer (.bool true) (.ofNanos 3)).answer.variantId =
        some "month" ∧
      offersEngine.evaluate "offer" customer (.bool true) (.ofNanos 3) =
        offersEngine.evaluate "offer" knownCustomer (.bool true) (.ofNanos 3) := by
  have subjects : (offersEngine.experimentFor? "offer").map (·.subjects offersEngine.segments) =
      some ["country", "subscription_tier"] := by decide +kernel
  have served :
      (offersEngine.evaluate "offer" customer (.bool true) (.ofNanos 3)).answer.variantId =
        some "month" := by decide +kernel
  have agree : ∀ e, offersEngine.experimentFor? "offer" = some e →
      ∀ name ∈ e.subjects offersEngine.segments,
        customer.attribute? name = knownCustomer.attribute? name := by
    intro e lead name hname
    rw [lead, Option.map_some, Option.some.injEq] at subjects
    rw [subjects] at hname
    simp only [List.mem_cons, List.not_mem_nil, or_false] at hname
    rcases hname with rfl | rfl
    · rfl
    · rfl
  obtain ⟨same, -, -⟩ := irrelevant_attributes offersEngine "offer" (.bool true) (.ofNanos 3)
  exact ⟨by decide, by decide, subjects, served, same customer knownCustomer rfl agree⟩

end FeatureTrials
