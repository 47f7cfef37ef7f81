import DeviceLogin.Proofs.Provisioning.Interfaces
import DeviceLogin.Proofs.Provisioning.Pushing

set_option autoImplicit false

namespace DeviceLogin

open Act

-- No call of the service throws: none is refused before it reaches the service, and whoever is asked for credentials says
-- yes or no.
structure Service.Calm (refusals : Service.Refusals) (system : Service) : Prop where
  unrefused : ∀ asked method params, refusals asked system.name method params = none
  replying : system.channel.Replying

namespace Provisioning

section Answers

def systemFields : List String :=
  ["product", "name", "model", "generation", "serial", "macAddr", "area", "region", "language"]

def interfaceFields : List String := ["interfaceVersion", "productCategory", "productName", "modelName", "serverName"]

def payload? (fields : List String) (answer : Option Reply) : Option (List (String × Json)) :=
  answer.bind fun reply => if reply.isError || !reply.hasResults then none else textual fields reply.first?

def modelPair (model : Option String) : List (String × Option String) :=
  if model.any isModelName then [("model", model)] else []

def systemPart (answer : Option Reply) : List (String × Option String) :=
  match payload? systemFields answer with
  | none => []
  | some members =>
      [("product", told members "product"), ("name", told members "name")] ++ modelPair (told members "model") ++
        [("generation", told members "generation"), ("serial", told members "serial"),
          ("macAddr", told members "macAddr"), ("area", told members "area"), ("region", told members "region")]

def interfacePart (answer : Option Reply) : List (String × Option String) :=
  match payload? interfaceFields answer with
  | none => []
  | some members =>
      [("interfaceVersion", told members "interfaceVersion"), ("productCategory", told members "productCategory"),
        ("serverName", told members "serverName")]

def networkPart (replies : List Reply) : List (String × Option String) :=
  match replies.findSome? interfaceIn? with
  | none => []
  | some members => networkPairs members

def factsIn (shape : Shape) (facts : List Fact) (answer : Option Reply) : List (String × Option String) :=
  match answer with
  | none => []
  | some reply =>
      if reply.isError || !reply.hasResults then []
      else
        match Shape.accept? shape reply.first? with
        | none => []
        | some data => properties facts data

theorem facts_in_payload (fields : List String) (facts : List Fact) (distinct : fields.Nodup)
    (kept : ∀ field ∈ fields, Shape.dropped field = false) (listed : ∀ fact ∈ facts, fact.field ∈ fields)
    (answer : Option Reply) :
    factsIn (.object (Shape.maybeTexts fields) true) facts answer =
      match payload? fields answer with
      | none => []
      | some members => properties facts (.obj members) := by
  rcases answer with _ | reply
  · rfl
  simp only [factsIn, payload?, Option.bind_some]
  cases reply.isError || !reply.hasResults with
  | true => rfl
  | false =>
      simp only [Bool.false_eq_true, if_false]
      rcases textual_split fields reply.first? with none | ⟨members, first, some, texts⟩
      · rw [none, refuse_texts fields reply.first? none]
      · obtain ⟨found, accepted, held⟩ := accept_texts fields members distinct kept texts
        rw [some, first, accepted]
        exact properties_same facts found members fun fact known => held fact.field (listed fact known)

theorem properties_plain (facts : List Fact) (members : List (String × Json))
    (plain : ∀ fact ∈ facts, fact.property ≠ "model") :
    properties facts (.obj members) = facts.map fun fact => (fact.property, told members fact.field) := by
  rw [properties, ← List.filterMap_eq_map]
  refine List.filterMap_congr fun fact listed => ?_
  simp only [beq_eq_false_iff_ne.mpr (plain fact listed), Bool.false_and, Bool.false_eq_true, if_false]
  rfl

theorem properties_model (members : List (String × Json)) :
    properties [⟨"model", "model"⟩] (.obj members) = modelPair (told members "model") := by
  have field : ((Json.obj members).member? "model").bind Json.text? = told members "model" := rfl
  simp only [properties, List.filterMap_cons, field, modelPair]
  cases told members "model" with
  | none => rfl
  | some name => cases valid : isModelName name <;> simp [valid]

theorem system_facts (answer : Option Reply) : factsIn Shape.systemInformation systemFacts answer = systemPart answer := by
  refine (facts_in_payload systemFields systemFacts (by decide) (by decide) (by decide) answer).trans ?_
  rw [systemPart]
  rcases payload? systemFields answer with _ | members
  · rfl
  -- Only the model is looked at before it is pushed.
  have parted : systemFacts = systemFacts.take 2 ++ [⟨"model", "model"⟩] ++ systemFacts.drop 3 := rfl
  have append (first rest : List Fact) : properties (first ++ rest) (.obj members) =
      properties first (.obj members) ++ properties rest (.obj members) := List.filterMap_append
  dsimp only
  rw [parted, append, append, properties_model, properties_plain _ members (by decide),
    properties_plain _ members (by decide)]
  rfl

theorem interface_facts (answer : Option Reply) :
    factsIn Shape.interfaceInformation interfaceFacts answer = interfacePart answer := by
  refine (facts_in_payload interfaceFields interfaceFacts (by decide) (by decide) (by decide) answer).trans ?_
  rw [interfacePart]
  rcases payload? interfaceFields answer with _ | members
  · rfl
  · exact properties_plain interfaceFacts members (by decide)

end Answers

inductive Asked (plan : Plan) (system : Service) (method : String) (before : Scene Site) : Option Reply → Scene Site → Prop
  | missing (lacks : system.offers method = false) : Asked plan system method before none before
  | answered {reply : Reply} {after : Scene Site} (offered : system.offers method = true)
      (replied : (Site.onService (Service.ask plan.refusals method)).perform before = (.ok reply, after)) :
      Asked plan system method before (some reply) after

inductive NetworkAsked (plan : Plan) (system : Service) (before : Scene Site) : List Reply → Scene Site → Prop
  | missing (lacks : system.offers "getNetworkSettings" = false) : NetworkAsked plan system before [] before
  | answered {names : List String} {replies : List Reply} {after : Scene Site}
      (offered : system.offers "getNetworkSettings" = true) (first : names <+: ["eth0", "wlan0", "eth1", "wlan1"])
      (asks : Asks plan names before replies after) : NetworkAsked plan system before replies after

def Pushed (pairs : List (String × Option String)) (before after : Scene Site) : Prop :=
  ∃ told, before.world.Logged told ∧ after = ⟨before.focus, told.given pairs⟩

def Told (pairs : List (String × Option String)) (before : Scene Site) (result : Except Failure Unit) (after : Scene Site) :
    Prop :=
  ∃ told, before.world.Logged told ∧ told.Handed pairs result after.world ∧ after.focus = before.focus

variable {plan : Plan} {system : Service}

theorem told_ends {pairs : List (String × Option String)} {before after : Scene Site} {result : Except Failure Unit}
    (given : Told pairs before result after) :
    result = .ok () ∧ Pushed pairs before after ∨
      ∃ key failure, result = .error failure ∧ after.world.refusesProperty key = some failure := by
  obtain ⟨told, logged, handed, focus⟩ := given
  obtain ⟨site, world⟩ := after
  dsimp only at handed focus
  cases handed with
  | all taken => exact .inl ⟨rfl, told, logged, by rw [focus]⟩
  | @refused _ _ pair failure order taken refused => exact .inr ⟨pair.1, failure, rfl, refused⟩

theorem told_pushing (pairs : List (String × Option String)) (scene : Scene Site) :
    Told pairs scene ((Scene.onWorld (pushAll pairs)).perform scene).1 ((Scene.onWorld (pushAll pairs)).perform scene).2 :=
  ⟨scene.world, logged_refl _, push_all_handed pairs scene.world, rfl⟩

theorem told_saying (message : String) (scene : Scene Site) :
    Told [] scene ((say plan message).perform scene).1 ((say plan message).perform scene).2 := by
  obtain ⟨told, logged, said⟩ := say_performed plan message scene
  rw [said]
  exact ⟨told, logged, World.handed_nothing told, rfl⟩

theorem calling_calm {refusals : Service.Refusals} (calm : system.Calm refusals) :
    system.Calling refusals (fun _ => True) (fun _ _ => False) where
  posted _ _ := fun _ _ => trivial
  noted _ _ _ := fun _ _ => trivial
  hooked reauthorize hook url before _ := by
    obtain ⟨again, after, replied⟩ := calm.replying reauthorize hook url before
    rw [replied]
    exact ⟨trivial, fun _ failed => nomatch failed⟩
  refused world method params failure _ refused := nomatch (calm.unrefused world.asked method params).symm.trans refused

theorem ask_calm (calm : system.Calm plan.refusals) (method : String) (params : List Json) {scene : Scene Site}
    (like : system.Like scene.focus.service) :
    ∃ reply after, (Site.onService (Service.ask plan.refusals method params)).perform scene = (.ok reply, after) ∧
      system.Like after.focus.service := by
  have kept : Keeps (fun scene : Scene Site => system.Like scene.focus.service ∧ True) (fun _ _ => False)
      (Site.onService (Service.ask plan.refusals method params)) :=
    Keeps.zoom _ (fun _ _ => False) (Service.ask_calling (calling_calm calm) method params) (fun _ like => like)
      (fun _ _ _ like => like)
  obtain ⟨after, failing⟩ := kept scene ⟨like, trivial⟩
  rcases ended : (Site.onService (Service.ask plan.refusals method params)).perform scene with ⟨result, last⟩
  rw [ended] at after failing
  cases result with
  | ok reply => exact ⟨reply, last, rfl, after.1⟩
  | error failure => exact False.elim (failing failure rfl)

theorem like_offers {scene : Scene Site} (like : system.Like scene.focus.service) (method : String) :
    scene.focus.service.offers method = system.offers method := by
  rw [Service.offers, Service.offers, like.methods]

theorem read_facts_told (calm : system.Calm plan.refusals) {scene : Scene Site} (like : system.Like scene.focus.service)
    (method : String) (shape : Shape) (facts : List Fact) :
    ∃ answer after, Asked plan system method scene answer after ∧ system.Like after.focus.service ∧
      Told (factsIn shape facts answer) after ((readFacts plan method shape facts).perform scene).1
        ((readFacts plan method shape facts).perform scene).2 := by
  cases offered : system.offers method with
  | false =>
      refine ⟨none, scene, .missing offered, like, ?_⟩
      have said : (readFacts plan method shape facts).perform scene =
          (say plan ("No " ++ method ++ " method found")).perform scene := by
        simp only [readFacts, askOptional, perform_bind, Site.offers, perform_get, perform_pure, like_offers like, offered]
        rfl
      rw [said]
      exact told_saying _ scene
  | true =>
      obtain ⟨reply, after, replied, next⟩ := ask_calm calm method [] like
      refine ⟨some reply, after, .answered offered replied, next, ?_⟩
      have course : (readFacts plan method shape facts).perform scene =
          (if reply.isError || !reply.hasResults then say plan (method ++ " skipped: " ++ reply.describe)
            else
              match Shape.accept? shape reply.first? with
              | none => say plan ("Unexpected " ++ method ++ " payload")
              | some data => Scene.onWorld (pushAll (properties facts data))).perform after := by
        simp only [readFacts, askOptional, perform_bind, Site.offers, perform_get, perform_pure, like_offers like, offered,
          Bool.not_true, Bool.false_eq_true, if_false, replied]
        cases reply.isError || !reply.hasResults with
        | true => rfl
        | false => rfl
      rw [course, factsIn]
      cases reply.isError || !reply.hasResults with
      | true => exact told_saying _ after
      | false =>
          simp only [Bool.false_eq_true, if_false]
          cases Shape.accept? shape reply.first? with
          | none => exact told_saying _ after
          | some data => exact told_pushing _ after

theorem asks_like (calm : system.Calm plan.refusals) {names : List String} {replies : List Reply}
    {before after : Scene Site} (asks : Asks plan names before replies after)
    (like : system.Like before.focus.service) : system.Like after.focus.service := by
  induction asks with
  | none => exact like
  | @next netif _ _ _ _ _ _ asked _ ih =>
      obtain ⟨reply, last, replied, next⟩ := ask_calm calm networkMethod [.obj [("netif", .str netif)]] like
      obtain ⟨-, rfl⟩ := Prod.mk.inj (asked.symm.trans replied)
      exact ih next

theorem asks_one_more {names : List String} {replies : List Reply} {before middle after : Scene Site} {netif : String}
    {reply : Reply} (asks : Asks plan names before replies middle)
    (asked : (asking plan netif).perform middle = (.ok reply, after)) :
    Asks plan (names ++ [netif]) before (replies ++ [reply]) after := by
  induction asks with
  | none => exact .next asked (.none _)
  | next first _ ih => exact .next first (ih asked)

theorem network_part_none {replies : List Reply} (unfit : ∀ reply ∈ replies, setting? reply = none) :
    networkPart replies = [] := by
  rw [networkPart, List.findSome?_eq_none_iff.mpr (unfit_setting unfit)]

theorem network_part_last {replies : List Reply} {reply : Reply} {setting : Json}
    (unfit : ∀ reply ∈ replies, setting? reply = none) (fits : setting? reply = some setting) :
    networkPart (replies ++ [reply]) = properties networkFacts setting := by
  obtain ⟨members, told, pairs⟩ := fitting_setting fits
  rw [networkPart, List.findSome?_append, List.findSome?_eq_none_iff.mpr (unfit_setting unfit), pairs]
  simp [told]

theorem read_network_told (calm : system.Calm plan.refusals) {scene : Scene Site}
    (like : system.Like scene.focus.service) :
    ∃ replies after, NetworkAsked plan system scene replies after ∧ system.Like after.focus.service ∧
      Told (networkPart replies) after ((readNetwork plan).perform scene).1 ((readNetwork plan).perform scene).2 := by
  cases offered : system.offers networkMethod with
  | false =>
      refine ⟨[], scene, .missing offered, like, ?_⟩
      have said : (readNetwork plan).perform scene =
          (say plan ("No " ++ networkMethod ++ " method found")).perform scene := by
        simp only [readNetwork, perform_bind, Site.offers, perform_get, perform_pure, like_offers like, offered]
        rfl
      rw [said]
      exact told_saying _ scene
  | true =>
      have searched := first_setting_searched plan interfaces scene
      rw [read_network_perform plan scene ((like_offers like _).trans offered), perform_bind]
      generalize (firstSetting plan interfaces).perform scene = ended at searched
      obtain ⟨result, last⟩ := ended
      cases searched with
      | @found early late netif replies reply setting middle after order before unfit asked fits =>
          have asks := asks_one_more before asked
          have first : early ++ [netif] <+: interfaces := ⟨late, by rw [order, List.append_assoc]; rfl⟩
          refine ⟨_, last, .answered offered first asks, asks_like calm asks like, ?_⟩
          rw [network_part_last unfit fits]
          exact told_pushing _ last
      | @none replies after asks unfit =>
          refine ⟨replies, last, .answered offered (List.prefix_refl _) asks, asks_like calm asks like, ?_⟩
          rw [network_part_none unfit]
          exact told_saying _ last
      | @failed early late netif replies failure middle after order before unfit asked =>
          obtain ⟨reply, _, replied, -⟩ :=
            ask_calm calm networkMethod [.obj [("netif", .str netif)]] (asks_like calm before like)
          cases asked.symm.trans replied

theorem logged_took {pairs : List (String × Option String)} {before after : World} (logged : before.Logged after)
    (took : before.Took pairs) : after.Took pairs := by
  obtain ⟨lines, -, rfl⟩ := logged
  have silent : (lines.map fun line => Event.logged line.1 line.2).filterMap Event.property? = [] := by
    simp [List.filterMap_map, Function.comp_def, Event.property?]
  rw [World.Took, World.pushed, List.filterMap_append, silent, List.append_nil]
  exact took

theorem given_took {pairs : List (String × Option String)} {world : World} (more : List (String × Option String))
    (took : world.Took pairs) : (world.given more).Took (pairs ++ more) := by
  have all : (more.map fun pair => Event.property pair.1 pair.2).filterMap Event.property? = more := by
    simp [List.filterMap_map, Function.comp_def, Event.property?]
  rw [World.Took, World.pushed, World.given, List.filterMap_append, all]
  exact congrArg (· ++ more) took

theorem pushed_telling {pairs more : List (String × Option String)} {before after : Scene Site}
    (pushed : Pushed more before after) (telling : Telling system pairs before) : Telling system (pairs ++ more) after := by
  obtain ⟨told, logged, rfl⟩ := pushed
  exact ⟨telling.1, given_took more (logged_took logged telling.2)⟩

theorem replied_telling (discreet : system.Discreet) {pairs : List (String × Option String)} {method : String}
    {params : List Json} {before after : Scene Site} {reply : Reply}
    (replied : (Site.onService (Service.ask plan.refusals method params)).perform before = (.ok reply, after))
    (telling : Telling system pairs before) : Telling system pairs after := by
  have keeps : Keeps (Telling system pairs) (fun _ _ => True) (Site.onService (Service.ask plan.refusals method params)) :=
    ask_telling discreet method params
  have kept := (keeps before telling).1
  rwa [replied] at kept

theorem asked_telling (discreet : system.Discreet) {pairs : List (String × Option String)} {method : String}
    {before after : Scene Site} {answer : Option Reply} (asked : Asked plan system method before answer after)
    (telling : Telling system pairs before) : Telling system pairs after := by
  cases asked with
  | missing => exact telling
  | answered offered replied => exact replied_telling discreet replied telling

theorem network_asked_telling (discreet : system.Discreet) {pairs : List (String × Option String)}
    {before after : Scene Site} {replies : List Reply} (asked : NetworkAsked plan system before replies after)
    (telling : Telling system pairs before) : Telling system pairs after := by
  cases asked with
  | missing => exact telling
  | answered offered first asks =>
      clear offered first
      induction asks with
      | none => exact telling
      | next asked _ ih => exact ih (replied_telling discreet asked telling)

def RefusedProperty (ended : Except Failure Unit × Scene Site) : Prop :=
  ∃ key failure, ended.1 = .error failure ∧ ended.2.world.refusesProperty key = some failure

theorem told_bind {pairs : List (String × Option String)} {act : Act (Scene Site) Unit} {before scene : Scene Site}
    (rest : Act (Scene Site) Unit) (given : Told pairs before (act.perform scene).1 (act.perform scene).2) :
    (∃ after, Pushed pairs before after ∧ (act >>= fun _ => rest).perform scene = rest.perform after) ∨
      RefusedProperty ((act >>= fun _ => rest).perform scene) := by
  rw [perform_bind]
  generalize act.perform scene = ended at given
  obtain ⟨result, after⟩ := ended
  rcases told_ends given with ⟨ended, pushed⟩ | ⟨key, failure, ended, refused⟩
  · obtain rfl : result = .ok () := ended
    exact .inl ⟨after, pushed, rfl⟩
  · obtain rfl : result = .error failure := ended
    exact .inr ⟨key, failure, rfl, refused⟩

theorem read_system_told (calm : system.Calm plan.refusals) {scene : Scene Site} (like : system.Like scene.focus.service) :
    ∃ about after, Asked plan system "getSystemInformation" scene about after ∧ system.Like after.focus.service ∧
      Told (systemPart about) after ((readSystem plan).perform scene).1 ((readSystem plan).perform scene).2 := by
  obtain ⟨about, after, asked, next, given⟩ := read_facts_told calm like "getSystemInformation" Shape.systemInformation
    systemFacts
  rw [system_facts] at given
  exact ⟨about, after, asked, next, given⟩

theorem read_interface_told (calm : system.Calm plan.refusals) {scene : Scene Site}
    (like : system.Like scene.focus.service) :
    ∃ interface after, Asked plan system "getInterfaceInformation" scene interface after ∧
      system.Like after.focus.service ∧
      Told (interfacePart interface) after ((readInterface plan).perform scene).1 ((readInterface plan).perform scene).2 := by
  obtain ⟨interface, after, asked, next, given⟩ := read_facts_told calm like "getInterfaceInformation"
    Shape.interfaceInformation interfaceFacts
  rw [interface_facts] at given
  exact ⟨interface, after, asked, next, given⟩

theorem pushed_like {pairs : List (String × Option String)} {before after : Scene Site} (pushed : Pushed pairs before after)
    (like : system.Like before.focus.service) : system.Like after.focus.service := by
  obtain ⟨told, -, rfl⟩ := pushed
  exact like

-- If no call of the service throws, the receiver takes what the answer about the system tells, what that about the
-- interface does, and what those about the network do, each part whatever the others are, and then the map file is written;
-- unless the receiver itself refuses a property, which ends the provisioning.
theorem readings_independent (plan : Plan) (scene : Scene Site) (calm : scene.focus.service.Calm plan.refusals) :
    let system := scene.focus.service
    let writing := CommandMap.write plan.scope plan.settings plan.refusals plan.parent
    let ended := (run plan).perform scene
    (∃ about interface network one first two second three third,
      Asked plan system "getSystemInformation" scene about one ∧ Pushed (systemPart about) one first ∧
        Asked plan system "getInterfaceInformation" first interface two ∧ Pushed (interfacePart interface) two second ∧
        NetworkAsked plan system second network three ∧ Pushed (networkPart network) three third ∧
        ended.1 = (writing.perform third).1.map (fun _ => ()) ∧ ended.2 = (writing.perform third).2 ∧
        (system.Discreet → ended.2.world.pushed =
          scene.world.pushed ++ (systemPart about ++ interfacePart interface ++ networkPart network))) ∨
    RefusedProperty ended := by
  intro system writing ended
  obtain ⟨about, one, askedAbout, like, told⟩ := read_system_told calm (Service.like_refl system)
  rcases told_bind (readInterface plan >>= fun _ => readNetwork plan >>= fun _ => writeMap plan >>= fun _ => pure ()) told
    with ⟨first, pushedAbout, course⟩ | refused
  swap
  · exact .inr refused
  obtain ⟨interface, two, askedInterface, like, told⟩ := read_interface_told calm (pushed_like pushedAbout like)
  rcases told_bind (readNetwork plan >>= fun _ => writeMap plan >>= fun _ => pure ()) told
    with ⟨second, pushedInterface, next⟩ | refused
  swap
  · rw [← course] at refused
    exact .inr refused
  rw [next] at course
  obtain ⟨network, three, askedNetwork, like, told⟩ := read_network_told calm (pushed_like pushedInterface like)
  rcases told_bind (writeMap plan >>= fun _ => pure ()) told with ⟨third, pushedNetwork, last⟩ | refused
  swap
  · rw [← course] at refused
    exact .inr refused
  rw [last] at course
  have written : ended = (((writeMap plan).perform third).1.map (fun _ => ()), ((writeMap plan).perform third).2) := by
    refine course.trans ?_
    rw [perform_bind]
    rcases (writeMap plan).perform third with ⟨result, after⟩
    cases result <;> rfl
  refine .inl ⟨about, interface, network, one, first, two, second, three, third, askedAbout, pushedAbout, askedInterface,
    pushedInterface, askedNetwork, pushedNetwork, congrArg Prod.fst written, congrArg Prod.snd written, fun discreet => ?_⟩
  have telling := network_asked_telling discreet askedNetwork (pushed_telling pushedInterface
    (asked_telling discreet askedInterface (pushed_telling pushedAbout
      (asked_telling discreet askedAbout ⟨Service.like_refl system, rfl⟩))))
  have after := (write_map_telling discreet plan third (pushed_telling pushedNetwork telling)).1.2
  rw [written]
  exact after.trans (by simp only [List.append_assoc])

theorem readings_independent_unnamed :
    let plan : Plan :=
      { settings := { deviceAddress := .absent, commandsMapFile := .text "tv.map", transformFolder := .text "maps" } }
    let system : Service :=
      { name := "system", channel := { url := "http://tv/sony/system" },
        methods := some [("getSystemInformation", ["1.0"]), ("getInterfaceInformation", ["1.0"]),
          ("getNetworkSettings", ["1.0"]), ("getRemoteControllerInfo", ["1.0"])] }
    let answer (body : String) : Http.Exchange :=
      .answered { status := some 200, headers := [], chunks := [.text body], streamError := none, truncated := false }
    let world : World :=
      { device := fun asked _ =>
          match asked.length with
          | 0 => answer "\x7b\"result\":[\x7b\"product\":\"TV\",\"model\":\" n/a \",\"area\":\"EU\"\x7d]\x7d"
          | 1 => answer "\x7b\"error\":[7,\"illegal state\"]\x7d"
          | 2 => answer "\x7b\"result\":[[\x7b\"netif\":\"eth0\"\x7d]]\x7d"
          | _ => answer "\x7b\"result\":[0,[\x7b\"name\":\"Up\",\"value\":\"1\"\x7d]]\x7d"
        files := { folders := [".", "/", "maps"] } }
    let scene : Scene Site := ⟨⟨system, .documents {}⟩, world⟩
    let ended := (run plan).perform scene
    system.Calm plan.refusals ∧ system.Discreet ∧
      (∃ about interface network third,
        ended.2 = ((CommandMap.write plan.scope plan.settings plan.refusals plan.parent).perform third).2 ∧
        ended.2.world.pushed = systemPart about ++ interfacePart interface ++ networkPart network) ∧
      ended.2.world.pushed =
        [("product", some "TV"), ("name", none), ("generation", none), ("serial", none), ("macAddr", none),
          ("area", some "EU"), ("region", none), ("netif", some "eth0"), ("hwAddress", none), ("ipv4Address", none),
          ("ipv6Address", none), ("netmask", none), ("gateway", none)] ∧
      ended.2.world.files.contents = [("maps/tv.map", "Up=1\n")] := by
  intro plan system answer world scene ended
  have calm : system.Calm plan.refusals := ⟨fun _ _ _ => rfl, fun _ hook => nomatch hook⟩
  have discreet : system.Discreet := fun _ hook => nomatch hook
  have resolved : ended.1.toOption = some () := by decide +kernel +zetaReduce
  refine ⟨calm, discreet, ?_, by decide +kernel +zetaReduce, by decide +kernel +zetaReduce⟩
  rcases readings_independent plan scene calm with parts | ⟨key, failure, failed, -⟩
  · obtain ⟨about, interface, network, -, -, -, -, -, third, -, -, -, -, -, -, -, written, pushed⟩ := parts
    exact ⟨about, interface, network, third, written, pushed discreet⟩
  · have failing : ended.1 = .error failure := failed
    rw [failing] at resolved
    exact nomatch resolved

end Provisioning

end DeviceLogin
