import StyleScope.Failure.Context

/-!
# Contexts built call by call

A context is filled in by calls that name its source, set its position or add a frame. A source or a position
replaces the one before and leaves the rest alone, and frames gather in order. So the context is told by the
last source, the last position and all frames, however calls of the three sorts were mixed.
-/

namespace StyleScope

/-- A field that steps overwrite holds what was written last, or what it held before. -/
theorem field_foldl {σ α β : Type} {step : σ → α → σ} (field : σ → Option β) {written : α → Option β}
    (hstep : ∀ s a, field (step s a) = (written a).or (field s)) (as : List α) (s : σ) :
    field (as.foldl step s) = (as.filterMap written).getLast?.or (field s) := by
  induction as generalizing s with
  | nil => rfl
  | cons a as ih =>
    rw [List.foldl_cons, ih, hstep, ← Option.or_assoc]
    cases hwritten : written a with
    | none => simp [hwritten]
    | some b =>
      rw [List.filterMap_cons_some hwritten, List.getLast?_cons]
      cases (as.filterMap written).getLast? <;> rfl

namespace Context

/-- A call that fills in a context. -/
inductive Step where
  | source (name : String)
  | position (line column : Nat)
  | frame (name : String)

namespace Step

def apply (c : Context) : Step → Context
  | source name => c.withSource name
  | position line column => c.withPosition line column
  | frame name => c.withFrame name

def source? : Step → Option String
  | source name => some name
  | _ => none

def position? : Step → Option (Nat × Nat)
  | position line column => some (line, column)
  | _ => none

def frame? : Step → Option String
  | frame name => some name
  | _ => none

end Step

/-- The empty context after the given calls. -/
def ofSteps (steps : List Step) : Context :=
  steps.foldl Step.apply {}

/-- The calls of each sort are the same and in the same order in both lists. -/
structure SameOrder (steps steps' : List Step) : Prop where
  sources : steps.filterMap Step.source? = steps'.filterMap Step.source?
  positions : steps.filterMap Step.position? = steps'.filterMap Step.position?
  frames : steps.filterMap Step.frame? = steps'.filterMap Step.frame?

def placeText : Option String → Option (Nat × Nat) → String
  | some source, some (line, column) => "at " ++ source ++ ":" ++ toString line ++ ":" ++ toString column
  | some source, none => "at " ++ source
  | none, _ => ""

/-! ## What the calls leave -/

theorem source_ofSteps (steps : List Step) : (ofSteps steps).source = (steps.filterMap Step.source?).getLast? := by
  have hstep (c : Context) (s : Step) : (s.apply c).source = s.source?.or c.source := by cases s <;> rfl
  rw [ofSteps, field_foldl source hstep, Option.or_none]

/-- A part of the position is set with the other. -/
theorem part_ofSteps (field : Context → Option Nat) {part : Nat × Nat → Nat} (hempty : field {} = none)
    (hstep : ∀ (c : Context) (s : Step), field (s.apply c) = (s.position?.map part).or (field c))
    (steps : List Step) : field (ofSteps steps) = (steps.filterMap Step.position?).getLast?.map part := by
  rw [ofSteps, field_foldl field hstep, hempty, Option.or_none, ← List.map_filterMap, List.getLast?_map]

theorem line_ofSteps (steps : List Step) :
    (ofSteps steps).line = (steps.filterMap Step.position?).getLast?.map Prod.fst :=
  part_ofSteps line rfl (fun _ s => by cases s <;> rfl) steps

theorem column_ofSteps (steps : List Step) :
    (ofSteps steps).column = (steps.filterMap Step.position?).getLast?.map Prod.snd :=
  part_ofSteps column rfl (fun _ s => by cases s <;> rfl) steps

theorem stack_foldl (steps : List Step) (c : Context) :
    (steps.foldl Step.apply c).stack = c.stack ++ steps.filterMap Step.frame? := by
  induction steps generalizing c with
  | nil => simp
  | cons s steps ih =>
    rw [List.foldl_cons, ih, List.filterMap_cons]
    cases s <;> simp [Step.apply, Step.frame?, withSource, withPosition, withFrame]

theorem stack_ofSteps (steps : List Step) : (ofSteps steps).stack = steps.filterMap Step.frame? :=
  stack_foldl steps {}

theorem place_ofSteps (steps : List Step) : (ofSteps steps).place =
    placeText (steps.filterMap Step.source?).getLast? (steps.filterMap Step.position?).getLast? := by
  unfold place
  rw [source_ofSteps, line_ofSteps, column_ofSteps]
  cases (steps.filterMap Step.source?).getLast? with
  | none => rfl
  | some source => cases (steps.filterMap Step.position?).getLast? <;> rfl

theorem ofSteps_eq (steps : List Step) : ofSteps steps =
    { source := (steps.filterMap Step.source?).getLast?
      line := (steps.filterMap Step.position?).getLast?.map Prod.fst
      column := (steps.filterMap Step.position?).getLast?.map Prod.snd
      stack := steps.filterMap Step.frame? } := by
  rw [← source_ofSteps, ← line_ofSteps, ← column_ofSteps, ← stack_ofSteps]

theorem SameOrder.ofSteps_eq {steps steps' : List Step} (h : SameOrder steps steps') :
    ofSteps steps = ofSteps steps' := by
  rw [Context.ofSteps_eq, h.sources, h.positions, h.frames, ← Context.ofSteps_eq]

/-- **A context is told by the last source, the last position and the frames,** so it and its text do not depend
on how the calls of the three sorts are mixed. -/
theorem ofSteps_tells_last_and_ignores_mixing :
    (∀ steps : List Step, (ofSteps steps).source = (steps.filterMap Step.source?).getLast? ∧
      (ofSteps steps).line = (steps.filterMap Step.position?).getLast?.map Prod.fst ∧
      (ofSteps steps).column = (steps.filterMap Step.position?).getLast?.map Prod.snd ∧
      (ofSteps steps).stack = steps.filterMap Step.frame? ∧
      (ofSteps steps).text =
        placeText (steps.filterMap Step.source?).getLast? (steps.filterMap Step.position?).getLast? ++
          String.join ((steps.filterMap Step.frame?).reverse.map fun frame => "\n  in " ++ frame)) ∧
    ∀ steps steps' : List Step, SameOrder steps steps' →
      ofSteps steps = ofSteps steps' ∧ (ofSteps steps).text = (ofSteps steps').text := by
  refine ⟨fun steps => ⟨source_ofSteps steps, line_ofSteps steps, column_ofSteps steps, stack_ofSteps steps, ?_⟩,
    fun steps steps' h => ⟨h.ofSteps_eq, congrArg text h.ofSteps_eq⟩⟩
  rw [text, place_ofSteps, stack_ofSteps]

theorem ofSteps_tells_last_and_ignores_mixing_repeated :
    let steps : List Step := [.frame "lighten", .source "a", .position 1 2, .source "b", .frame "mix", .position 3 14]
    let steps' : List Step := [.position 1 2, .position 3 14, .source "a", .frame "lighten", .frame "mix", .source "b"]
    SameOrder steps steps' ∧ (ofSteps steps).text = (ofSteps steps').text ∧
      (ofSteps steps').text = "at b:3:14\n  in mix\n  in lighten" := by
  intro steps steps'
  have h : SameOrder steps steps' := ⟨by decide, by decide, by decide⟩
  exact ⟨h, (ofSteps_tells_last_and_ignores_mixing.2 steps steps' h).2, by decide⟩

end Context

end StyleScope
