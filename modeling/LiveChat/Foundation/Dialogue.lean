import Mathlib.Data.List.Basic
import LiveChat.Foundation.TransitionSystem

/-!
# Programs that put commands to a world

A `Dialogue` is a program as the commands that it puts and what it does with each answer.
`Ensures` says what holds of every way it can end, whatever the answers are.  A `Talk` is a
program under way in a world that goes on between its commands.
-/

set_option autoImplicit false

namespace LiveChat.Foundation

open LiveChat.Foundation.TransitionSystem

/-- It is done, or it puts a command and goes on with the answer. -/
inductive Dialogue (Command : Type) (Answer : Command → Type) (Result : Type) where
  | done (result : Result)
  | ask (command : Command) (next : Answer command → Dialogue Command Answer Result)

/-- A command with the answer that it got. -/
abbrev Exchange (Command : Type) (Answer : Command → Type) := Sigma Answer

namespace Dialogue

variable {Command : Type} {Answer : Command → Type} {Result Final : Type}

def bind : Dialogue Command Answer Result → (Result → Dialogue Command Answer Final) →
    Dialogue Command Answer Final
  | .done result, next => next result
  | .ask command rest, next => .ask command fun answer => (rest answer).bind next

instance : Monad (Dialogue Command Answer) where
  pure := .done
  bind := .bind

/-- The program that puts one command. -/
def put (command : Command) : Dialogue Command Answer (Answer command) := .ask command .done

/-! ## What holds at the end -/

/-- Every way that the program can go ends with exchanges and a result that meet `post`. -/
def Ensures : Dialogue Command Answer Result →
    (List (Exchange Command Answer) → Result → Prop) → Prop
  | .done result, post => post [] result
  | .ask command next, post => ∀ answer, (next answer).Ensures fun exchanges result =>
      post (⟨command, answer⟩ :: exchanges) result

theorem ensures_pure {result : Result}
    {post : List (Exchange Command Answer) → Result → Prop} :
    (pure result : Dialogue Command Answer Result).Ensures post ↔ post [] result := Iff.rfl

theorem ensures_put {command : Command}
    {post : List (Exchange Command Answer) → Answer command → Prop} :
    (put command).Ensures post ↔ ∀ answer, post [⟨command, answer⟩] answer := Iff.rfl

theorem ensures_put_bind {command : Command} {next : Answer command → Dialogue Command Answer Result}
    {post : List (Exchange Command Answer) → Result → Prop} :
    (put command >>= next).Ensures post ↔ ∀ answer, (next answer).Ensures fun later result =>
      post (⟨command, answer⟩ :: later) result := Iff.rfl

theorem Ensures.mono {program : Dialogue Command Answer Result}
    {post weaker : List (Exchange Command Answer) → Result → Prop}
    (ensures : program.Ensures post)
    (implies : ∀ exchanges result, post exchanges result → weaker exchanges result) :
    program.Ensures weaker := by
  induction program generalizing post weaker with
  | done result => exact implies [] result ensures
  | ask command next ih =>
      intro answer
      exact ih answer (ensures answer) fun exchanges result => implies _ result

theorem Ensures.bind {program : Dialogue Command Answer Result}
    {next : Result → Dialogue Command Answer Final}
    {middle : List (Exchange Command Answer) → Result → Prop}
    {post : List (Exchange Command Answer) → Final → Prop}
    (first : program.Ensures middle)
    (second : ∀ exchanges result, middle exchanges result →
      (next result).Ensures fun later final => post (exchanges ++ later) final) :
    (program >>= next).Ensures post := by
  induction program generalizing middle post with
  | done result => exact second [] result first
  | ask command rest ih =>
      intro answer
      exact ih answer (first answer) fun exchanges result met => second _ result met

/-! ## What it may put -/

/-- Every command that the program puts is allowed after the exchanges before it. -/
def Asks (allowed : List (Exchange Command Answer) → Command → Prop) :
    List (Exchange Command Answer) → Dialogue Command Answer Result → Prop
  | _, .done _ => True
  | past, .ask command next =>
      allowed past command ∧ ∀ answer, Asks allowed (past ++ [⟨command, answer⟩]) (next answer)

theorem asks_put_bind {allowed : List (Exchange Command Answer) → Command → Prop}
    {past : List (Exchange Command Answer)} {command : Command}
    {next : Answer command → Dialogue Command Answer Result} :
    Asks allowed past (put command >>= next) ↔
      allowed past command ∧ ∀ answer, Asks allowed (past ++ [⟨command, answer⟩]) (next answer) :=
  Iff.rfl

theorem Asks.bind {allowed : List (Exchange Command Answer) → Command → Prop}
    {past : List (Exchange Command Answer)} {program : Dialogue Command Answer Result}
    {next : Result → Dialogue Command Answer Final} (first : Asks allowed past program)
    (second : ∀ later result, Asks allowed later (next result)) :
    Asks allowed past (program >>= next) := by
  induction program generalizing past with
  | done result => exact second past result
  | ask command rest ih => exact ⟨first.1, fun answer => ih answer (first.2 answer)⟩

/-- The program comes to another one by the exchanges. -/
inductive Goes : Dialogue Command Answer Result → List (Exchange Command Answer) →
    Dialogue Command Answer Result → Prop where
  | start (program : Dialogue Command Answer Result) : Goes program [] program
  | answered {program : Dialogue Command Answer Result}
      {exchanges : List (Exchange Command Answer)} {command : Command}
      {next : Answer command → Dialogue Command Answer Result}
      (before : Goes program exchanges (.ask command next)) (answer : Answer command) :
      Goes program (exchanges ++ [⟨command, answer⟩]) (next answer)

/-- What is still to hold, and what is still allowed, of the program that it comes to. -/
theorem Goes.ensures {program after : Dialogue Command Answer Result}
    {exchanges : List (Exchange Command Answer)}
    {post : List (Exchange Command Answer) → Result → Prop}
    (goes : Goes program exchanges after) (ensures : program.Ensures post) :
    after.Ensures fun later result => post (exchanges ++ later) result := by
  induction goes with
  | start => exact ensures
  | answered before answer ih =>
      have rest := ih answer
      simpa only [List.append_assoc, List.singleton_append] using rest

theorem Goes.asks {program after : Dialogue Command Answer Result}
    {exchanges : List (Exchange Command Answer)}
    {allowed : List (Exchange Command Answer) → Command → Prop}
    (goes : Goes program exchanges after) (asks : Asks allowed [] program) :
    Asks allowed exchanges after := by
  induction goes with
  | start => exact asks
  | answered before answer ih => exact ih.2 answer

/-- Every command that was put was allowed. -/
theorem Goes.permitted {program after : Dialogue Command Answer Result}
    {exchanges : List (Exchange Command Answer)}
    {allowed : List (Exchange Command Answer) → Command → Prop}
    (goes : Goes program exchanges after) (asks : Asks allowed [] program) :
    ∀ exchange ∈ exchanges, ∃ past, allowed past exchange.1 := by
  induction goes with
  | start => exact fun _ listed => absurd listed List.not_mem_nil
  | answered before answer ih =>
      intro exchange listed
      rcases List.mem_append.mp listed with old | last
      · exact ih exchange old
      · obtain rfl := List.mem_singleton.mp last
        exact ⟨_, (before.asks asks).1⟩

theorem Goes.ended {program : Dialogue Command Answer Result}
    {exchanges : List (Exchange Command Answer)} {result : Result}
    {post : List (Exchange Command Answer) → Result → Prop}
    (goes : Goes program exchanges (.done result)) (ensures : program.Ensures post) :
    post exchanges result := by
  have last := goes.ensures ensures
  simpa only [Ensures, List.append_nil] using last

end Dialogue

/-! ## Programs under way -/

/-- One command of a program, in the world before it and with the world after it. -/
structure Moment (World Command : Type) (Answer : Command → Type) where
  before : World
  after : World
  exchange : Exchange Command Answer

/-- The world, what is left of the program, and the commands that it has put. -/
structure Talk (World Command : Type) (Answer : Command → Type) (Result : Type) where
  world : World
  program : Dialogue Command Answer Result
  history : List (Moment World Command Answer) := []

inductive TalkEvent (Event : Type) where
  /-- Something else happens in the world. -/
  | meanwhile (event : Event)
  /-- The program puts its next command. -/
  | put

namespace Talk

variable {World Event Command : Type} {Answer : Command → Type} {Result : Type}
variable (elapse : World → Event → Option World)
variable (perform : World → (command : Command) → Option (World × Answer command))

def step (talk : Talk World Command Answer Result) :
    TalkEvent Event → Option (Talk World Command Answer Result)
  | .meanwhile event => (elapse talk.world event).map fun world => { talk with world := world }
  | .put =>
      match talk.program with
      | .done _ => none
      | .ask command next =>
          (perform talk.world command).map fun reply =>
            { world := reply.1
              program := next reply.2
              history := talk.history ++ [⟨talk.world, reply.1, ⟨command, reply.2⟩⟩] }

def exchanges (talk : Talk World Command Answer Result) : List (Exchange Command Answer) :=
  talk.history.map Moment.exchange

/-- The command did what it does, and its answer is the one it gave. -/
def Moment.Performed (moment : Moment World Command Answer) : Prop :=
  perform moment.before moment.exchange.1 = some (moment.after, moment.exchange.2)

variable {elapse perform}

theorem step_cases {talk next : Talk World Command Answer Result} {event : TalkEvent Event}
    (run : talk.step elapse perform event = some next) :
    (∃ happened, event = .meanwhile happened ∧ elapse talk.world happened = some next.world ∧
      next.program = talk.program ∧ next.history = talk.history) ∨
    ∃ command rest answer, event = .put ∧ talk.program = .ask command rest ∧
      perform talk.world command = some (next.world, answer) ∧ next.program = rest answer ∧
      next.history = talk.history ++ [⟨talk.world, next.world, ⟨command, answer⟩⟩] := by
  cases event with
  | meanwhile happened =>
      obtain ⟨world, moved, rfl⟩ := Option.map_eq_some_iff.mp run
      exact Or.inl ⟨happened, rfl, moved, rfl, rfl⟩
  | put =>
      simp only [step] at run
      split at run
      · cases run
      · rename_i command rest waits
        obtain ⟨⟨world, answer⟩, performed, rfl⟩ := Option.map_eq_some_iff.mp run
        exact Or.inr ⟨command, rest, answer, rfl, waits, performed, rfl, rfl⟩

/-- A talk that began with the program in a good world. -/
structure Tracks (good : World → Prop) (program : Dialogue Command Answer Result)
    (perform : World → (command : Command) → Option (World × Answer command))
    (talk : Talk World Command Answer Result) : Prop where
  goes : program.Goes talk.exchanges talk.program
  performed : ∀ moment ∈ talk.history, Moment.Performed perform moment
  present : good talk.world
  past : ∀ moment ∈ talk.history, good moment.before

theorem tracks_start {good : World → Prop} {world : World} (start : good world)
    (program : Dialogue Command Answer Result) :
    Tracks good program perform { world := world, program := program } :=
  ⟨.start program, fun _ listed => absurd listed List.not_mem_nil, start,
    fun _ listed => absurd listed List.not_mem_nil⟩

theorem tracks_step {good : World → Prop} {program : Dialogue Command Answer Result}
    (elapsed : ∀ world event next, good world → elapse world event = some next → good next)
    (answered : ∀ world command next answer, good world →
      perform world command = some (next, answer) → good next)
    {talk next : Talk World Command Answer Result} {event : TalkEvent Event}
    (tracks : Tracks good program perform talk)
    (run : talk.step elapse perform event = some next) : Tracks good program perform next := by
  rcases step_cases run with ⟨happened, -, moved, same, kept⟩ |
    ⟨command, rest, answer, -, waits, put, left, grown⟩
  · refine ⟨?_, kept ▸ tracks.performed, elapsed _ _ _ tracks.present moved, kept ▸ tracks.past⟩
    rw [exchanges, kept, same]
    exact tracks.goes
  · have before := tracks.goes
    rw [waits] at before
    refine ⟨?_, ?_, answered _ _ _ _ tracks.present put, ?_⟩
    · rw [exchanges, grown, List.map_append, left]
      exact before.answered answer
    · rw [grown]
      exact List.forall_mem_append.mpr ⟨tracks.performed, List.forall_mem_singleton.mpr put⟩
    · rw [grown]
      exact List.forall_mem_append.mpr
        ⟨tracks.past, List.forall_mem_singleton.mpr tracks.present⟩

/-- Where the answer to a command came from. -/
theorem exists_moment {talk : Talk World Command Answer Result}
    (performed : ∀ moment ∈ talk.history, Moment.Performed perform moment) {command : Command}
    {answer : Answer command} (listed : ⟨command, answer⟩ ∈ talk.exchanges) :
    ∃ before after, ⟨before, after, ⟨command, answer⟩⟩ ∈ talk.history ∧
      perform before command = some (after, answer) := by
  obtain ⟨⟨before, after, _⟩, member, rfl⟩ := List.mem_map.mp listed
  exact ⟨before, after, member, performed _ member⟩

theorem runsOn_meanwhile {allowed : Event → Prop} {own : TalkEvent Event → Prop}
    (covers : ∀ event, allowed event → own (.meanwhile event))
    (talk : Talk World Command Answer Result) {world : World}
    (run : RunsOn elapse allowed talk.world world) :
    RunsOn (step elapse perform) own talk { talk with world := world } := by
  obtain ⟨events, only, ran⟩ := run
  induction events generalizing talk with
  | nil =>
      cases Option.some.inj ran
      exact .refl own talk
  | cons event rest ih =>
      obtain ⟨here, others⟩ := List.forall_mem_cons.mp only
      obtain ⟨next, first, later⟩ := exec_cons_some ran
      have stepped : talk.step elapse perform (.meanwhile event) =
          some { talk with world := next } := by
        simp only [step, first, Option.map_some]
      exact (RunsOn.single (covers event here) stepped).trans
        (ih { talk with world := next } others later)

theorem runsOn_put {own : TalkEvent Event → Prop} (allowed : own .put)
    {talk : Talk World Command Answer Result} {command : Command}
    {next : Answer command → Dialogue Command Answer Result} {world : World}
    {answer : Answer command} (waits : talk.program = .ask command next)
    (performed : perform talk.world command = some (world, answer)) :
    RunsOn (step elapse perform) own talk
      { world := world
        program := next answer
        history := talk.history ++ [⟨talk.world, world, ⟨command, answer⟩⟩] } := by
  refine .single allowed ?_
  simp only [step, waits, performed, Option.map_some]

end Talk

end LiveChat.Foundation
