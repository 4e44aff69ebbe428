import StyleScope.Failure.Report
import StyleScope.Proofs.Failure.Interleaving

/-!
# Reports show failures unchanged

A failure is made by one of the functions of its manager and may have values put on record. Whichever way it
becomes a report, and whatever contexts the report is set in, the report shows its message, value and text.
Its code is listed once among all codes, and no other code has the same dotted text.
-/

namespace StyleScope

/-- A call that makes a failure of the colour manager. -/
inductive ColorCall where
  | new (fault : ColorFault) (message : String)
  | invalidFormat (literal : String)
  | unknownFormat (format : String)
  | missingAttribute (format key : String)
  | invalidAttribute (key value : String)
  | unsupportedConversion (source target : String)
  | invalidSpecification (reason : String)

namespace ColorCall

def failure : ColorCall → ColorFailure
  | new fault message => .new fault message
  | invalidFormat literal => .invalidFormat literal
  | unknownFormat format => .unknownFormat format
  | missingAttribute format key => .missingAttribute format key
  | invalidAttribute key value => .invalidAttribute key value
  | unsupportedConversion source target => .unsupportedConversion source target
  | invalidSpecification reason => .invalidSpecification reason

/-- The argument that is put on record. -/
def recorded? : ColorCall → Option String
  | invalidFormat literal => some literal
  | unknownFormat format => some format
  | missingAttribute _ key => some key
  | invalidAttribute _ value => some value
  | new _ _ | unsupportedConversion _ _ | invalidSpecification _ => none

end ColorCall

/-- A call that makes a failure of the unit manager. -/
inductive UnitCall where
  | new (fault : UnitFault) (message : String)
  | unknownUnit (suffix : String)
  | incompatibleUnits (left right : String)
  | conversionImpossible (source target : String)
  | invalidSpecification (reason : String)
  | unsupportedOperation (operation unit : String)

namespace UnitCall

def failure : UnitCall → UnitFailure
  | new fault message => .new fault message
  | unknownUnit suffix => .unknownUnit suffix
  | incompatibleUnits left right => .incompatibleUnits left right
  | conversionImpossible source target => .conversionImpossible source target
  | invalidSpecification reason => .invalidSpecification reason
  | unsupportedOperation operation unit => .unsupportedOperation operation unit

/-- The argument that is put on record. -/
def recorded? : UnitCall → Option String
  | unknownUnit suffix => some suffix
  | unsupportedOperation _ unit => some unit
  | new _ _ | incompatibleUnits _ _ | conversionImpossible _ _ | invalidSpecification _ => none

end UnitCall

/-! ## Codes -/

namespace FaultCode

/-- The code has a place of its own among all codes. -/
structure Listed (c : FaultCode) : Prop where
  once : all.count c = 1
  sole : ∀ c' ∈ all, c'.text = c.text → c' = c
  dotted : (c.manager.text ++ ".").toList <+: c.text.toList

theorem mem_all (c : FaultCode) : c ∈ all := by
  cases c with
  | color f => cases f <;> decide
  | unit f => cases f <;> decide

theorem listed (c : FaultCode) : c.Listed := by
  have honce : ∀ c ∈ all, all.count c = 1 := by decide
  have hsole : ∀ c ∈ all, ∀ c' ∈ all, c'.text = c.text → c' = c := by decide
  have hdotted : ∀ c ∈ all, (c.manager.text ++ ".").toList <+: c.text.toList := by decide
  exact ⟨honce c c.mem_all, hsole c c.mem_all, hdotted c c.mem_all⟩

end FaultCode

/-! ## Values and contexts in turn -/

theorem Failure.value_foldl_withValue {κ : Type} (f : Failure κ) (values : List String) :
    (values.foldl withValue f).value = values.getLast?.or f.value := by
  have hstep (f : Failure κ) (value : String) : (f.withValue value).value = (some value).or f.value := rfl
  rw [field_foldl Failure.value hstep, List.filterMap_some]

theorem Report.context_foldl_withContext (r : Report) (contexts : List Context) :
    (contexts.foldl withContext r).context = contexts.getLast?.or r.context := by
  have hstep (r : Report) (c : Context) : (r.withContext c).context = (some c).or r.context := rfl
  rw [field_foldl Report.context hstep, List.filterMap_some]

theorem Report.failure_foldl_withContext (r : Report) (contexts : List Context) :
    (contexts.foldl withContext r).failure = r.failure := by
  induction contexts generalizing r with
  | nil => rfl
  | cons c contexts ih => exact ih (r.withContext c)

theorem Route.report_eq (route : Route) (f : ManagerFailure) : route.report f = .new f := by
  cases route <;> cases f <;> rfl

/-! ## Reports -/

/-- The report shows what the failure shows, under the manager and the code of its fault. -/
structure Report.Shows {κ : Type} [Fault κ] (r : Report) (f : Failure κ) : Prop where
  message : r.message = f.message
  value : r.failure.value = f.value
  text : r.text = f.text
  text_eq : r.text = Fault.text f.fault ++ ": " ++ f.message
  code_faultText : r.code.faultText = Fault.text f.fault
  code_text : r.code.text = Fault.code f.fault
  manager : r.manager = Fault.manager κ
  code_manager : r.code.manager = r.manager
  failure_code : r.failure.code = r.code
  failure_manager : r.failure.manager = r.manager

theorem Report.shows_color {r : Report} {f : ColorFailure} (h : r.failure = .color f) : r.Shows f := by
  obtain ⟨failure, context⟩ := r
  subst h
  constructor <;> rfl

theorem Report.shows_unit {r : Report} {f : UnitFailure} (h : r.failure = .unit f) : r.Shows f := by
  obtain ⟨failure, context⟩ := r
  subst h
  constructor <;> rfl

/-- Whatever values are put on record in `made`, which has `recorded?` on record, and whichever way it becomes a
report and in whatever contexts, the report shows it with the last of the values and the last of the contexts. -/
def Delivered {κ : Type} [Fault κ] (lift : Failure κ → ManagerFailure) (made : Failure κ)
    (recorded? : Option String) : Prop :=
  ∀ (values : List String) (route : Route) (contexts : List Context),
    let f := values.foldl Failure.withValue made
    let r := contexts.foldl Report.withContext (route.report (lift f))
    r.Shows f ∧ r.code.Listed ∧ r.failure.value = values.getLast?.or recorded? ∧ r.context = contexts.getLast?

theorem delivered_of_shows {κ : Type} [Fault κ] {lift : Failure κ → ManagerFailure} {made : Failure κ}
    {recorded? : Option String} (hshows : ∀ {r : Report} {f : Failure κ}, r.failure = lift f → r.Shows f)
    (hmade : made.value = recorded?) : Delivered lift made recorded? := by
  intro values route contexts f r
  have hr : r.failure = lift f := by
    rw [Report.failure_foldl_withContext, Route.report_eq]
    rfl
  refine ⟨hshows hr, r.code.listed, ?_, ?_⟩
  · rw [(hshows hr).value, Failure.value_foldl_withValue, hmade]
  · rw [Report.context_foldl_withContext, Route.report_eq]
    exact Option.or_none

/-- **Reports show failures unchanged:** those that the functions of either manager make. -/
theorem Report.delivers_failures_of_both_managers :
    (∀ call : ColorCall, Delivered .color call.failure call.recorded?) ∧
      ∀ call : UnitCall, Delivered .unit call.failure call.recorded? := by
  refine ⟨fun call => delivered_of_shows shows_color ?_, fun call => delivered_of_shows shows_unit ?_⟩
  · cases call <;> rfl
  · cases call <;> rfl

end StyleScope
