import Mathlib.Data.List.Forall2
import DeviceLogin.Log.Logger
import DeviceLogin.Proofs.Log.Merging

set_option autoImplicit false

namespace DeviceLogin

open Log (Context)

namespace Logger

abbrev Lineage := List Context

-- A logger that stands where the contexts of a lineage lie on one another.
structure Heir (lineage : Lineage) (logger : Logger) : Prop where
  distinct : (Ordered.keys logger.context.metadata).Nodup
  whole : Context.merged [logger.context] = Context.merged lineage

theorem Heir.overlay {lineage : Lineage} {logger : Logger} (heir : Heir lineage logger) (context : Context) :
    logger.context.overlay context = Context.merged (lineage ++ [context]) := by
  calc logger.context.overlay context
      = Context.merged [logger.context, context] := Context.overlay_merged _ _ heir.distinct
    _ = Context.merged [Context.merged [logger.context], context] :=
        (Context.merged_inside [] [logger.context] [context]).symm
    _ = Context.merged [Context.merged lineage, context] := by rw [heir.whole]
    _ = Context.merged (lineage ++ [context]) := Context.merged_inside [] lineage [context]

theorem Heir.child {lineage : Lineage} {logger : Logger} (heir : Heir lineage logger) (context : Context) :
    Heir (lineage ++ [context]) (logger.child context) := by
  rw [Logger.child, heir.overlay context]
  refine ⟨Context.merged_distinct _, ?_⟩
  simpa using Context.merged_inside [] (lineage ++ [context]) []

theorem Heir.chain {lineage : Lineage} {logger : Logger} (heir : Heir lineage logger) (chain : List Context) :
    Heir (lineage ++ chain) (chain.foldl Logger.child logger) := by
  induction chain generalizing lineage logger with
  | nil => simpa using heir
  | cons context rest ih => simpa using ih (heir.child context)

theorem Heir.write {lineage : Lineage} {logger : Logger} (heir : Heir lineage logger) (level : Log.Level)
    (message : String) (context : Context) : logger.write level message context =
      World.record (.logged level ((Context.merged (lineage ++ [context])).line message)) := by
  rw [Logger.write, heir.overlay context]

theorem rootless_write (level : Log.Level) (message : String) (contexts : List Context) :
    ({} : Logger).write level message (Context.merged contexts) =
      World.record (.logged level ((Context.merged contexts).line message)) := by
  rw [Logger.write, Context.overlay_nothing]

inductive Use where
  | child (parent : Nat) (context : Context)
  | write (writer : Nat) (level : Log.Level) (message : String) (context : Context)

def Use.writer? : Use → Option Nat
  | .child .. => none
  | .write writer .. => some writer

def perform (scene : Scene (List Logger)) : Use → Scene (List Logger)
  | .child parent context => { scene with focus := scene.focus ++ (scene.focus[parent]?.map (·.child context)).toList }
  | .write writer level message context =>
      match scene.focus[writer]? with
      | some logger => { scene with world := ((logger.write level message context).run scene.world).2 }
      | none => scene

def performAll (scene : Scene (List Logger)) (uses : List Use) : Scene (List Logger) := uses.foldl perform scene

def Use.lineages (known : List Lineage) : Use → List Lineage
  | .child parent context => known ++ (known[parent]?.map (· ++ [context])).toList
  | .write .. => known

def Use.lines (known : List Lineage) : Use → List Event
  | .child .. => []
  | .write writer level message context =>
      (known[writer]?.map fun lineage =>
        Event.logged level ((Context.merged (lineage ++ [context])).line message)).toList

def linesTold (known : List Lineage) : List Use → List Event
  | [] => []
  | use :: rest => use.lines known ++ linesTold (use.lineages known) rest

theorem heir_at {known : List Lineage} {family : List Logger} (heirs : List.Forall₂ Heir known family) (number : Nat) :
    (known[number]? = none ∧ family[number]? = none) ∨
      ∃ lineage logger, known[number]? = some lineage ∧ family[number]? = some logger ∧ Heir lineage logger := by
  induction heirs generalizing number with
  | nil => simp
  | cons first _ ih =>
      cases number with
      | zero => exact .inr ⟨_, _, rfl, rfl, first⟩
      | succ number => simpa using ih number

theorem perform_heirs (known : List Lineage) (scene : Scene (List Logger)) (use : Use)
    (heirs : List.Forall₂ Heir known scene.focus) :
    List.Forall₂ Heir (use.lineages known) (perform scene use).focus := by
  cases use with
  | child parent context =>
      rcases heir_at heirs parent with ⟨none, missing⟩ | ⟨lineage, logger, old, found, heir⟩
      · simpa [Use.lineages, perform, none, missing] using heirs
      · have born : List.Forall₂ Heir [lineage ++ [context]] [logger.child context] := .cons (heir.child context) .nil
        simpa [Use.lineages, perform, old, found] using List.rel_append heirs born
  | write writer level message context =>
      cases found : scene.focus[writer]? <;> simpa [Use.lineages, perform, found] using heirs

theorem perform_lines (known : List Lineage) (scene : Scene (List Logger)) (use : Use)
    (heirs : List.Forall₂ Heir known scene.focus) :
    (perform scene use).world = { scene.world with trace := scene.world.trace ++ use.lines known } := by
  cases use with
  | child parent context => simp [perform, Use.lines]
  | write writer level message context =>
      rcases heir_at heirs writer with ⟨none, missing⟩ | ⟨lineage, logger, old, found, heir⟩
      · simp [perform, Use.lines, none, missing]
      · simp only [perform, found, Use.lines, old, heir.write level message context]
        rfl

theorem perform_all_lines (known : List Lineage) (scene : Scene (List Logger)) (uses : List Use)
    (heirs : List.Forall₂ Heir known scene.focus) :
    (performAll scene uses).world = { scene.world with trace := scene.world.trace ++ linesTold known uses } := by
  induction uses generalizing known scene with
  | nil => simp [performAll, linesTold]
  | cons use rest ih =>
      change (performAll (perform scene use) rest).world = _
      rw [ih _ _ (perform_heirs known scene use heirs), perform_lines known scene use heirs, linesTold, List.append_assoc]

def writtenBy (number : Nat) (scene : Scene (List Logger)) : List Use → List Event
  | [] => []
  | use :: rest =>
      let next := perform scene use
      (if use.writer? = some number then next.world.trace.drop scene.world.trace.length else []) ++
        writtenBy number next rest

def ownLine (number : Nat) (logger : Logger) : Use → Option Event
  | .child .. => none
  | .write writer level message context =>
      if writer = number then some (.logged level ((logger.context.overlay context).line message)) else none

theorem perform_keeps (number : Nat) (logger : Logger) (scene : Scene (List Logger)) (use : Use)
    (known : scene.focus[number]? = some logger) : (perform scene use).focus[number]? = some logger := by
  cases use with
  | child parent context =>
      obtain ⟨within, -⟩ := List.getElem?_eq_some_iff.mp known
      rw [perform, List.getElem?_append_left within, known]
  | write writer level message context =>
      cases found : scene.focus[writer]? <;> simpa [perform, found] using known

theorem perform_own (number : Nat) (logger : Logger) (scene : Scene (List Logger)) (use : Use)
    (known : scene.focus[number]? = some logger) (own : use.writer? = some number) :
    (perform scene use).world.trace.drop scene.world.trace.length = (ownLine number logger use).toList := by
  cases use with
  | child parent context => cases own
  | write writer level message context =>
      obtain rfl : writer = number := Option.some.inj own
      rw [perform, known, ownLine, if_pos rfl]
      exact List.drop_left

theorem written_by_own (number : Nat) (logger : Logger) (scene : Scene (List Logger)) (uses : List Use)
    (known : scene.focus[number]? = some logger) :
    writtenBy number scene uses = uses.filterMap (ownLine number logger) := by
  induction uses generalizing scene with
  | nil => rfl
  | cons use rest ih =>
      have later := ih _ (perform_keeps number logger scene use known)
      by_cases own : use.writer? = some number
      · rw [writtenBy, if_pos own, later, perform_own number logger scene use known own]
        cases line : ownLine number logger use <;> simp [line]
      · have none : ownLine number logger use = none := by
          cases use with
          | child => rfl
          | write writer => exact if_neg fun same => own (congrArg some same)
        rw [writtenBy, if_neg own, later, List.nil_append, List.filterMap_cons_none none]

theorem own_uses (number : Nat) (logger : Logger) (uses : List Use) :
    (uses.filter (·.writer? = some number)).filterMap (ownLine number logger) =
      uses.filterMap (ownLine number logger) := by
  rw [List.filterMap_filter]
  refine List.filterMap_congr fun use _ => ?_
  cases use with
  | child => rfl
  | write writer => by_cases same : writer = number <;> simp [Use.writer?, ownLine, same]

end Logger

open Logger

-- A logger made by a chain of children, of a root whose extra data has each name once, writes the line that a logger
-- without context writes in the one context that the root's, the children's and the call's come to: of each part the last
-- that was said, and the extra data name by name. It makes no difference which contexts are laid together first. In a
-- family of loggers each line is told by the contexts from the root down to its writer, and whatever else is done, a
-- logger writes what it would without it.
theorem children_compose (root : Context) (distinct : (Ordered.keys root.metadata).Nodup) :
    (∀ (chain : List Context) (level : Log.Level) (message : String) (context : Context),
      ∃ whole, Context.Overlaid (root :: chain ++ [context]) whole ∧
        (∀ other, Context.Overlaid (root :: chain ++ [context]) other → other = whole) ∧
        (chain.foldl Logger.child ⟨root⟩).write level message context = ({} : Logger).write level message whole ∧
        ({} : Logger).write level message whole = World.record (.logged level (whole.line message))) ∧
    (∀ middle upper : Context, (Ordered.keys middle.metadata).Nodup →
      (root.overlay middle).overlay upper = root.overlay (middle.overlay upper)) ∧
    (∀ (world : World) (uses : List Use), (performAll ⟨[⟨root⟩], world⟩ uses).world =
      { world with trace := world.trace ++ linesTold [[root]] uses }) ∧
    ∀ (scene : Scene (List Logger)) (uses : List Use) (number : Nat), number < scene.focus.length →
      writtenBy number scene uses = writtenBy number scene (uses.filter (·.writer? = some number)) := by
  have heir : Heir [root] ⟨root⟩ := ⟨distinct, rfl⟩
  refine ⟨fun chain level message context => ?_, fun middle upper => Context.overlay_assoc root middle upper distinct,
    fun world uses => perform_all_lines _ _ _ (.cons heir .nil), fun scene uses number known => ?_⟩
  · have overlaid (other : Context) := Context.overlaid_iff (root :: chain ++ [context]) other
    refine ⟨_, (overlaid _).mpr rfl, fun other => (overlaid other).mp, ?_, rootless_write level message _⟩
    rw [rootless_write]
    exact (heir.chain chain).write level message context
  · have found : scene.focus[number]? = some scene.focus[number] := List.getElem?_eq_getElem known
    rw [written_by_own number _ scene _ found, written_by_own number _ scene _ found, own_uses]

theorem children_compose_numbers :
    (Ordered.keys [("b", Json.nat 1), ("2", Json.nat 1)]).Nodup ∧
      ([{ device := some "tv", metadata := [("b", Json.nat 2), ("10", Json.nat 3)] },
        { category := some "Wake", metadata := [("1", Json.nat 0)] }].foldl Logger.child
          ⟨{ category := some "Session", metadata := [("b", Json.nat 1), ("2", Json.nat 1)] }⟩).write .info "go"
        { metadata := [("2", Json.nat 5), ("a", Json.nat 6)] } =
      World.record (.logged .info "[Wake] [tv] go \x7b\"1\":0,\"2\":5,\"10\":3,\"b\":2,\"a\":6\x7d") := by
  have distinct : (Ordered.keys [("b", Json.nat 1), ("2", Json.nat 1)]).Nodup := by decide
  refine ⟨distinct, ?_⟩
  obtain ⟨whole, overlaid, -, same, line⟩ :=
    (children_compose { category := some "Session", metadata := [("b", Json.nat 1), ("2", Json.nat 1)] } distinct).1
      [{ device := some "tv", metadata := [("b", Json.nat 2), ("10", Json.nat 3)] },
        { category := some "Wake", metadata := [("1", Json.nat 0)] }] .info "go"
      { metadata := [("2", Json.nat 5), ("a", Json.nat 6)] }
  have members : Ordered.asMembers [("b", Json.nat 1), ("2", Json.nat 1), ("b", Json.nat 2), ("10", Json.nat 3),
      ("1", Json.nat 0), ("2", Json.nat 5), ("a", Json.nat 6)] =
        [("1", Json.nat 0), ("2", Json.nat 5), ("10", Json.nat 3), ("b", Json.nat 2), ("a", Json.nat 6)] := by
    simp [Ordered.asMembers, Ordered.inMemberOrder, Ordered.putAll, Ordered.put, Ordered.indexEntries, indexName?,
      Number.valueOf, Number.digitValue, List.mergeSort]
  have told : whole = { category := some "Wake", device := some "tv", metadata := _ } :=
    ((Context.overlaid_iff _ _).mp overlaid).trans (congrArg (Context.mk _ _ _ _) members)
  have written : whole.line "go" = "[Wake] [tv] go \x7b\"1\":0,\"2\":5,\"10\":3,\"b\":2,\"a\":6\x7d" := by
    rw [told]
    decide +kernel
  rw [same, line, written]

end DeviceLogin
