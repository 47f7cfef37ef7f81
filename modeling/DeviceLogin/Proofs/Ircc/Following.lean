import DeviceLogin.Proofs.Ircc.Commands
import DeviceLogin.Proofs.Posting

set_option autoImplicit false

namespace DeviceLogin.Ircc

open Act

abbrev Reader (σ : Type) := σ → String → Option (Except Xml.Fault Json) × σ

section Generic

variable {σ : Type} (read : Reader σ)

def documentBy (url : String) : Act (Scene σ) Json := do
  let response ← Scene.onWorld (World.request url { headers := [("Accept", "text/xml")] })
  if response.status != 200 then
    throw (.error ("GET " ++ url ++ " failed with status " ++ response.status.text))
  let scene ← get
  let (answer, after) := read scene.focus response.body
  set { scene with focus := after }
  match answer with
  | some (.ok tree) => pure tree
  | some (.error (.broken message)) => throw (.error message)
  | some (.error .crowdedText) => throw .crowdedText
  | none => throw .noAnswer

def commandsBy (logger : Logger) (url : String) : Act (Scene σ) (List RemoteCommand) := do
  match (← documentBy read url).findValue? commandListElement with
  | some list => Act.always (Scene.inWorld (readCommands logger list))
  | none => throw (.error ("No remoteCommandList in response from " ++ url))

def actionsBy (logger : Logger) (url : String) : Act (Scene σ) (List RemoteCommand) := do
  let actions ← documentBy read url
  let commandsUrl ← MonadExcept.ofExcept (actionUrl actions url listAction)
  commandsBy read logger commandsUrl

def fetchBy (parent : Logger) (url : String) : Act (Scene σ) (List RemoteCommand) := do
  let logger := parent.child (.about "IRCC")
  let description ← documentBy read url
  match description.findValue? commandListElement with
  | some list => Act.always (Scene.inWorld (readCommands logger list))
  | none =>
      let listUrl := ((description.findValue? actionListElement).bind Json.elementText?).getD ""
      if listUrl.isEmpty then
        throw (.error ("IRCC device description at " ++ url ++ " has no " ++ actionListElement))
      actionsBy read logger listUrl

def getting (url : Url) : Http.Request := Http.requestOf url { headers := [("Accept", "text/xml")] }

inductive Visit where
  | document (tree : Json)
  | nothing
  | silence

-- What asking a device for the document at an address comes to, after some other requests: the requests that are
-- sent, the visit, and the state of the reader behind it. A document is what a reader makes of an answer with
-- status 200.
inductive Visited (device : List Http.Request → Http.Request → Http.Exchange) (asked : List Http.Request) (state : σ)
    (address : String) : List Http.Request → Visit → σ → Prop
  | unread (bad : Url.read? address = none) : Visited device asked state address [] .nothing state
  | lost {url : Url} (good : Url.read? address = some url) (none : (device asked (getting url)).response? = none) :
      Visited device asked state address [getting url] .nothing state
  | refused {url : Url} {response : Http.Response} (good : Url.read? address = some url)
      (came : (device asked (getting url)).response? = some response) (status : response.status ≠ 200) :
      Visited device asked state address [getting url] .nothing state
  | broken {url : Url} {response : Http.Response} {fault : Xml.Fault} {after : σ} (good : Url.read? address = some url)
      (came : (device asked (getting url)).response? = some response) (status : response.status = 200)
      (made : read state response.body = (some (.error fault), after)) :
      Visited device asked state address [getting url] .nothing after
  | silent {url : Url} {response : Http.Response} {after : σ} (good : Url.read? address = some url)
      (came : (device asked (getting url)).response? = some response) (status : response.status = 200)
      (made : read state response.body = (none, after)) :
      Visited device asked state address [getting url] .silence after
  | parsed {url : Url} {response : Http.Response} {tree : Json} {after : σ} (good : Url.read? address = some url)
      (came : (device asked (getting url)).response? = some response) (status : response.status = 200)
      (made : read state response.body = (some (.ok tree), after)) :
      Visited device asked state address [getting url] (.document tree) after

inductive Stage where
  | description
  | actions
  | commands

def Stage.list? : Stage → Json → Option Json
  | .actions, _ => none
  | _, tree => tree.firstMember? commandListElement

def Stage.next? : Stage → Json → Option (Stage × String)
  | .description, tree => (actionsAddress? tree).map (.actions, ·)
  | .actions, tree => (commandsAddress? tree).map (.commands, ·)
  | .commands, _ => none

inductive Ended where
  | list (list : Json)
  | rejected
  | waiting

def Ended.list? : Ended → Option Json
  | .list found => some found
  | _ => none

def listIn? (document : Option Json) : Option Json := document.bind (Json.firstMember? commandListElement)

inductive Follows (device : List Http.Request → Http.Request → Http.Exchange) :
    Stage → List Http.Request → σ → String → List Http.Request → List Json → Ended → Prop
  | lost {stage : Stage} {asked requests : List Http.Request} {state after : σ} {address : String}
      (visited : Visited read device asked state address requests .nothing after) :
      Follows device stage asked state address requests [] .rejected
  | waiting {stage : Stage} {asked requests : List Http.Request} {state after : σ} {address : String}
      (visited : Visited read device asked state address requests .silence after) :
      Follows device stage asked state address requests [] .waiting
  | listed {stage : Stage} {asked requests : List Http.Request} {state after : σ} {address : String} {tree list : Json}
      (visited : Visited read device asked state address requests (.document tree) after)
      (found : stage.list? tree = some list) : Follows device stage asked state address requests [tree] (.list list)
  | stuck {stage : Stage} {asked requests : List Http.Request} {state after : σ} {address : String} {tree : Json}
      (visited : Visited read device asked state address requests (.document tree) after)
      (unlisted : stage.list? tree = none) (nowhere : stage.next? tree = none) :
      Follows device stage asked state address requests [tree] .rejected
  | onward {stage later : Stage} {asked requests more : List Http.Request} {state after : σ} {address place : String}
      {tree : Json} {documents : List Json} {ended : Ended}
      (visited : Visited read device asked state address requests (.document tree) after)
      (unlisted : stage.list? tree = none) (next : stage.next? tree = some (later, place))
      (rest : Follows device later (asked ++ requests) after place more documents ended) :
      Follows device stage asked state address (requests ++ more) (tree :: documents) ended

structure Asked (requests : List Http.Request) (world reached : World) : Prop where
  answers : reached.answers = world.answers
  asked : reached.asked = world.asked ++ requests

inductive Visit.Gives : Visit → Except Failure Json → Prop
  | document (tree : Json) : Gives (.document tree) (.ok tree)
  | nothing {failure : Failure} (heard : failure ≠ .noAnswer) : Gives .nothing (.error failure)
  | silence : Gives .silence (.error .noAnswer)

inductive Ended.Gives : Ended → Except Failure (List RemoteCommand) → Prop
  | list (list : Json) : Gives (.list list) (.ok (commandsUnder list))
  | rejected {failure : Failure} (heard : failure ≠ .noAnswer) : Gives .rejected (.error failure)
  | waiting : Gives .waiting (.error .noAnswer)

def readOff : Option (Except Xml.Fault Json) → Except Failure Json
  | some (.ok tree) => .ok tree
  | some (.error (.broken message)) => .error (.error message)
  | some (.error .crowdedText) => .error .crowdedText
  | none => .error .noAnswer

theorem document_lost (address : String) (scene : Scene σ) (failure : Failure) (reached : World)
    (asked : (World.request address { headers := [("Accept", "text/xml")] }).perform scene.world = (.error failure, reached)) :
    (documentBy read address).perform scene = (.error failure, ⟨scene.focus, reached⟩) := by
  rw [documentBy, perform_bind, Provisioning.on_world_perform, asked]

theorem document_refused (address : String) (scene : Scene σ) (response : Http.Response) (reached : World)
    (asked : (World.request address { headers := [("Accept", "text/xml")] }).perform scene.world = (.ok response, reached))
    (status : response.status ≠ 200) :
    ∃ message, (documentBy read address).perform scene = (.error (.error message), ⟨scene.focus, reached⟩) := by
  rw [documentBy, perform_bind, Provisioning.on_world_perform, asked]
  simp only [bne_iff_ne.mpr status, if_true]
  exact ⟨_, rfl⟩

theorem document_read (address : String) (scene : Scene σ) (response : Http.Response) (reached : World)
    (asked : (World.request address { headers := [("Accept", "text/xml")] }).perform scene.world = (.ok response, reached))
    (status : response.status = 200) :
    (documentBy read address).perform scene =
      (readOff (read scene.focus response.body).1, ⟨(read scene.focus response.body).2, reached⟩) := by
  have fine : (response.status != 200) = false := by simp [status]
  rw [documentBy, perform_bind, Provisioning.on_world_perform, asked]
  simp only [fine, Bool.false_eq_true, if_false, perform_bind, perform_get, perform_set]
  rcases (read scene.focus response.body).1 with _ | result
  · rfl
  · rcases result with fault | tree
    · cases fault <;> rfl
    · rfl

theorem document_visited (address : String) (scene : Scene σ) :
    ∃ requests visit, Visited read scene.world.answers scene.world.asked scene.focus address requests visit
        ((documentBy read address).perform scene).2.focus ∧
      Asked requests scene.world ((documentBy read address).perform scene).2.world ∧
      visit.Gives ((documentBy read address).perform scene).1 := by
  cases good : Url.read? address with
  | none =>
      rw [document_lost read address scene _ _ (World.request_bad_address address _ _ good)]
      exact ⟨[], .nothing, .unread good, ⟨rfl, (List.append_nil _).symm⟩, .nothing nofun⟩
  | some url =>
      have sent := World.request_sent address { headers := [("Accept", "text/xml")] } scene.world url good
      rw [← getting] at sent
      have only : Asked [getting url] scene.world (World.asking (getting url) scene.world) := ⟨rfl, rfl⟩
      cases settled : (scene.world.answers scene.world.asked (getting url)).outcome address Http.defaultTimeout with
      | error message =>
          have lost := Http.outcome_error _ _ _ _ settled
          simp only [Option.getD_none, settled] at sent
          rw [document_lost read address scene _ _ sent]
          exact ⟨_, .nothing, .lost good lost, only, .nothing nofun⟩
      | ok response =>
          have came := (Http.outcome_ok_iff _ _ _ _).mp settled
          simp only [Option.getD_none, settled] at sent
          by_cases status : response.status = 200
          · rw [document_read read address scene response _ sent status]
            rcases made : read scene.focus response.body with ⟨answer, after⟩
            rcases answer with _ | fault | tree
            · exact ⟨_, .silence, .silent good came status made, only, .silence⟩
            · cases fault <;> exact ⟨_, .nothing, .broken good came status made, only, .nothing nofun⟩
            · exact ⟨_, .document tree, .parsed good came status made, only, .document tree⟩
          · obtain ⟨message, refused⟩ := document_refused read address scene response _ sent status
            rw [refused]
            exact ⟨_, .nothing, .refused good came status, only, .nothing nofun⟩

def Course (stage : Stage) (address : String) (scene : Scene σ)
    (done : Except Failure (List RemoteCommand) × Scene σ) : Prop :=
  ∃ requests documents ended,
    Follows read scene.world.answers stage scene.world.asked scene.focus address requests documents ended ∧
      Asked requests scene.world done.2.world ∧ ended.Gives done.1

theorem visited_course (stage : Stage) (address : String) (next : Json → Act (Scene σ) (List RemoteCommand))
    (listed : ∀ tree list after, stage.list? tree = some list →
      ((next tree).perform after).1 = .ok (commandsUnder list) ∧ Asked [] after.world ((next tree).perform after).2.world)
    (stuck : ∀ tree after, stage.list? tree = none → stage.next? tree = none →
      ∃ failure, failure ≠ .noAnswer ∧ (next tree).perform after = (.error failure, after))
    (onward : ∀ tree after later place, stage.list? tree = none → stage.next? tree = some (later, place) →
      Course read later place after ((next tree).perform after))
    (scene : Scene σ) : Course read stage address scene ((documentBy read address >>= next).perform scene) := by
  obtain ⟨requests, visit, visited, asked, gives⟩ := document_visited read address scene
  rw [perform_bind]
  rcases performed : (documentBy read address).perform scene with ⟨result, after⟩
  rw [performed] at visited asked gives
  cases gives with
  | nothing heard => exact ⟨requests, [], .rejected, .lost visited, asked, .rejected heard⟩
  | silence => exact ⟨requests, [], .waiting, .waiting visited, asked, .waiting⟩
  | document tree =>
      change Course read stage address scene ((next tree).perform after)
      have further {more : List Http.Request} {reached : World} (later : Asked more after.world reached) :
          Asked (requests ++ more) scene.world reached :=
        ⟨later.answers.trans asked.answers, by rw [later.asked, asked.asked, List.append_assoc]⟩
      cases found : stage.list? tree with
      | some list =>
          obtain ⟨given, quiet⟩ := listed tree list after found
          have whole := further quiet
          rw [List.append_nil] at whole
          exact ⟨requests, [tree], .list list, .listed visited found, whole, given ▸ .list list⟩
      | none =>
          cases onto : stage.next? tree with
          | none =>
              obtain ⟨failure, heard, failed⟩ := stuck tree after found onto
              rw [failed]
              exact ⟨requests, [tree], .rejected, .stuck visited found onto, asked, .rejected heard⟩
          | some place =>
              obtain ⟨more, documents, ended, follows, later, gives⟩ := onward tree after place.1 place.2 found onto
              rw [asked.answers, asked.asked] at follows
              exact ⟨requests ++ more, tree :: documents, ended, .onward visited found onto follows, further later, gives⟩

theorem list_given (logger : Logger) (list : Json) (scene : Scene σ) :
    ((Act.always (Scene.inWorld (readCommands logger list))).perform scene).1 = .ok (commandsUnder list) ∧
      Asked [] scene.world ((Act.always (Scene.inWorld (readCommands logger list))).perform scene).2.world := by
  refine ⟨congrArg Except.ok (commands_read logger list scene.world), ?_⟩
  change Asked [] scene.world ((readCommands logger list).run scene.world).2
  rw [readCommands]
  cases isTree list with
  | false => exact ⟨rfl, (List.append_nil _).symm⟩
  | true => cases commands? list <;> exact ⟨rfl, (List.append_nil _).symm⟩

theorem commands_course (logger : Logger) (address : String) (scene : Scene σ) :
    Course read .commands address scene ((commandsBy read logger address).perform scene) := by
  have same (tree : Json) : tree.findValue? commandListElement = tree.firstMember? commandListElement :=
    Json.find_value_first commandListElement rfl tree
  refine visited_course read .commands address _ (fun tree list after found => ?_) (fun tree after unlisted nowhere => ?_)
    (fun tree after later place unlisted next => nomatch next) scene
  · have found : tree.firstMember? commandListElement = some list := found
    simp only [same, found]
    exact list_given logger list after
  · have unlisted : tree.firstMember? commandListElement = none := unlisted
    simp only [same, unlisted]
    exact ⟨.error _, nofun, rfl⟩

theorem actions_course (logger : Logger) (address : String) (scene : Scene σ) :
    Course read .actions address scene ((actionsBy read logger address).perform scene) := by
  refine visited_course read .actions address _ (fun tree list after found => nomatch found)
    (fun tree after unlisted nowhere => ?_) (fun tree after later place unlisted next => ?_) scene
  · have none : commandsAddress? tree = none := Option.map_eq_none_iff.mp nowhere
    have failing := address_found tree address
    rw [none] at failing
    obtain ⟨message, failed⟩ := failing
    rw [failed]
    exact ⟨.error _, nofun, rfl⟩
  · obtain ⟨url, given, same⟩ := Option.map_eq_some_iff.mp next
    obtain ⟨rfl, rfl⟩ := Prod.mk.inj same
    have found := address_found tree address
    rw [given] at found
    rw [found]
    exact commands_course read logger url after

theorem fetch_course (parent : Logger) (address : String) (scene : Scene σ) :
    Course read .description address scene ((fetchBy read parent address).perform scene) := by
  have same (tree : Json) : tree.findValue? commandListElement = tree.firstMember? commandListElement :=
    Json.find_value_first commandListElement rfl tree
  refine visited_course read .description address _ (fun tree list after found => ?_)
    (fun tree after unlisted nowhere => ?_) (fun tree after later place unlisted next => ?_) scene
  · have found : tree.firstMember? commandListElement = some list := found
    simp only [same, found]
    exact list_given _ list after
  · have unlisted : tree.firstMember? commandListElement = none := unlisted
    have none : actionsAddress? tree = none := Option.map_eq_none_iff.mp nowhere
    have told := actions_address tree
    rw [none] at told
    simp only [same, unlisted, told, if_true]
    exact ⟨.error _, nofun, rfl⟩
  · have unlisted : tree.firstMember? commandListElement = none := unlisted
    obtain ⟨url, given, onto⟩ := Option.map_eq_some_iff.mp next
    obtain ⟨rfl, rfl⟩ := Prod.mk.inj onto
    have told := actions_address tree
    rw [given] at told
    simp only [same, unlisted, told.1, told.2, Bool.false_eq_true, if_false]
    exact actions_course read _ url after

def Stage.left : Stage → Nat
  | .description => 3
  | .actions => 2
  | .commands => 1

theorem next_left {stage later : Stage} {tree : Json} {place : String} (next : stage.next? tree = some (later, place)) :
    later.left + 1 = stage.left := by
  cases stage with
  | commands => exact nomatch next
  | _ =>
      obtain ⟨url, -, onto⟩ := Option.map_eq_some_iff.mp next
      obtain ⟨rfl, -⟩ := Prod.mk.inj onto
      rfl

def IsGet (request : Http.Request) : Prop :=
  request.method = "GET" ∧ request.headers = [("Accept", "text/xml")] ∧ request.body = none

variable {read} {device : List Http.Request → Http.Request → Http.Exchange} {asked requests : List Http.Request} {state : σ}
  {address : String} {documents : List Json} {ended : Ended}

theorem visited_requests {visit : Visit} {after : σ}
    (visited : Visited read device asked state address requests visit after) :
    requests.length ≤ 1 ∧ ∀ request ∈ requests, IsGet request := by
  have one (url : Url) : [getting url].length ≤ 1 ∧ ∀ request ∈ [getting url], IsGet request :=
    ⟨Nat.le_refl 1, List.forall_mem_singleton.mpr ⟨rfl, rfl, rfl⟩⟩
  cases visited with
  | unread => exact ⟨Nat.zero_le 1, List.forall_mem_nil _⟩
  | _ => exact one _

theorem follows_requests {stage : Stage} (follows : Follows read device stage asked state address requests documents ended) :
    requests.length ≤ stage.left ∧ ∀ request ∈ requests, IsGet request := by
  have some_left (stage : Stage) : 1 ≤ stage.left := by cases stage <;> decide
  induction follows with
  | @onward stage later _ _ _ _ _ _ _ _ _ _ visited _ next _ ih =>
      obtain ⟨few, gets⟩ := visited_requests visited
      obtain ⟨fewer, others⟩ := ih
      refine ⟨?_, List.forall_mem_append.mpr ⟨gets, others⟩⟩
      have less := next_left next
      rw [List.length_append]
      omega
  | @lost stage _ _ _ _ _ visited | @waiting stage _ _ _ _ _ visited | @listed stage _ _ _ _ _ _ _ visited
  | @stuck stage _ _ _ _ _ _ visited =>
      obtain ⟨few, gets⟩ := visited_requests visited
      exact ⟨Nat.le_trans few (some_left stage), gets⟩

def Stage.told? : Stage → List Json → Option Json
  | .description, documents => (listIn? documents[0]?).or (listIn? documents[2]?)
  | .actions, documents => listIn? documents[1]?
  | .commands, documents => listIn? documents[0]?

theorem follows_told {stage : Stage} (follows : Follows read device stage asked state address requests documents ended) :
    ended.list? = stage.told? documents := by
  induction follows with
  | @lost stage | @waiting stage => cases stage <;> rfl
  | @listed stage _ _ _ _ _ _ _ _ found =>
      cases stage with
      | actions => exact nomatch found
      | description =>
          have found : Json.firstMember? commandListElement _ = some _ := found
          simp [Stage.told?, listIn?, found, Ended.list?]
      | commands => exact found.symm
  | @stuck stage _ _ _ _ _ _ _ unlisted =>
      cases stage with
      | actions => rfl
      | description =>
          have unlisted : Json.firstMember? commandListElement _ = none := unlisted
          simp [Stage.told?, listIn?, unlisted, Ended.list?]
      | commands => exact unlisted.symm
  | @onward stage later _ _ _ _ _ _ _ _ _ _ _ unlisted next _ ih =>
      cases stage with
      | commands => exact nomatch next
      | actions =>
          obtain ⟨url, -, onto⟩ := Option.map_eq_some_iff.mp next
          obtain ⟨rfl, -⟩ := Prod.mk.inj onto
          exact ih
      | description =>
          obtain ⟨url, -, onto⟩ := Option.map_eq_some_iff.mp next
          obtain ⟨rfl, -⟩ := Prod.mk.inj onto
          have unlisted : Json.firstMember? commandListElement _ = none := unlisted
          rw [ih]
          simp [Stage.told?, listIn?, unlisted]

theorem follows_heard {stage : Stage} (follows : Follows read device stage asked state address requests documents ended)
    (answers : ∀ state body, (read state body).1 ≠ none) : ended ≠ .waiting := by
  induction follows with
  | waiting visited =>
      cases visited with
      | silent _ _ _ made => exact absurd (congrArg Prod.fst made) (answers _ _)
  | onward _ _ _ _ ih => exact ih
  | _ => exact nofun

end Generic

-- The documents are followed by at most three plain requests for them, each of which needs the document before it: the
-- description, the document with the actions that it names, and the document with the commands that the right action names.
-- The commands are those of the first list in the first or the third document and of nothing else; without such a list the
-- fetching fails, and only a reader that gives no answer leaves it unfinished.
theorem fetch_follows :
    fetchBy Xml.read = fetch ∧
      ∀ (σ : Type) (read : Reader σ) (parent : Logger) (address : String) (scene : Scene σ),
        let done := (fetchBy read parent address).perform scene
        ∃ requests documents ended,
          Follows read scene.world.answers .description scene.world.asked scene.focus address requests documents ended ∧
          done.2.world.asked = scene.world.asked ++ requests ∧ requests.length ≤ 3 ∧
          (∀ request ∈ requests, request.method = "GET" ∧ request.headers = [("Accept", "text/xml")] ∧ request.body = none) ∧
          match (listIn? documents[0]?).or (listIn? documents[2]?) with
          | some list => done.1 = .ok (commandsUnder list)
          | none => ∃ failure, done.1 = .error failure ∧
              ((∀ state body, (read state body).1 ≠ none) → failure ≠ .noAnswer) := by
  refine ⟨rfl, fun σ read parent address scene => ?_⟩
  intro done
  obtain ⟨requests, documents, ended, follows, asked, gives⟩ := fetch_course read parent address scene
  obtain ⟨few, gets⟩ := follows_requests follows
  have told : ended.list? = (listIn? documents[0]?).or (listIn? documents[2]?) := follows_told follows
  refine ⟨requests, documents, ended, follows, asked.asked, few, gets, ?_⟩
  rw [← told]
  change ended.Gives done.1 at gives
  generalize done.1 = result at gives
  cases gives with
  | list list => rfl
  | rejected heard => exact ⟨_, rfl, fun _ => heard⟩
  | waiting => exact ⟨_, rfl, fun answers => absurd rfl (follows_heard follows answers)⟩

end DeviceLogin.Ircc
