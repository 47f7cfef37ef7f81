import DeviceLogin.Proofs.Url.Segments

set_option autoImplicit false

namespace DeviceLogin.Url

structure Below (slashes : Nat) (name : List Char) (device below : Url) : Prop where
  scheme : below.scheme = device.scheme
  host : below.hostName = device.hostName
  port : below.port = device.port
  search : below.searchChars = []
  path : Beneath slashes name device.pathChars below.pathChars

def Tailless (text : List Char) : Prop := '?' ∉ text ∧ '#' ∉ text

theorem Tailless.append {first rest : List Char} (one : Tailless first) (two : Tailless rest) :
    Tailless (first ++ rest) :=
  ⟨by simp [one.1, two.1], by simp [one.2, two.2]⟩

theorem Tailless.before {first : List Char} (rest : List Char) (both : Tailless (first ++ rest)) : Tailless first :=
  ⟨fun member => both.1 (List.mem_append_left rest member), fun member => both.2 (List.mem_append_left rest member)⟩

theorem Tailless.behind {rest : List Char} (first : List Char) (both : Tailless (first ++ rest)) : Tailless rest :=
  ⟨fun member => both.1 (List.mem_append_right first member), fun member => both.2 (List.mem_append_right first member)⟩

theorem tailless_slashes (count : Nat) : Tailless (List.replicate count '/') := by simp [Tailless, List.mem_replicate]

theorem Ordinary.tailless {name : List Char} (ordinary : Ordinary name) : Tailless ('/' :: name) := by
  have absent (c : Char) (encoded : encodesInPath c = true) : c ∉ name := fun member => by
    rw [ordinary.kept c member] at encoded
    cases encoded
  exact ⟨by simp [absent '?' rfl], by simp [absent '#' rfl]⟩

def Path.chars : Path → List Char
  | .opaqueText text => text
  | .segments names => joined names

theorem path_chars (url : Url) : url.pathChars = url.path.chars := by
  rw [pathChars]
  cases url.path <;> rfl

theorem split_tail_plain (special : Bool) (text : List Char) (tailless : Tailless text) :
    splitTail special text = (text, none, none) := by
  have body : text.takeWhile (· != '#') = text :=
    List.takeWhile_eq_self_iff.mpr fun c member => bne_iff_ne.mpr fun same => tailless.2 (same ▸ member)
  have path : text.takeWhile (· != '?') = text :=
    List.takeWhile_eq_self_iff.mpr fun c member => bne_iff_ne.mpr fun same => tailless.1 (same ▸ member)
  rw [splitTail]
  simp only [body, path, List.drop_length]

section Places

variable (special : Bool)

def Follows (after : List Char) : Prop :=
  after = [] ∨ ∃ c names, after = c :: names ∧ isSlash special c = true ∧ Solid special names

theorem place_follows (text : List Char) (solid : text = [] ∨ Solid special text) (tailless : Tailless text) :
    ∃ place after, text = place ++ after ∧ (∀ c ∈ place, endsLocation special c = false) ∧ Follows special after := by
  rcases solid with rfl | solid
  · exact ⟨[], [], rfl, by simp, .inl rfl⟩
  let inside : Char → Bool := fun c => !endsLocation special c
  refine ⟨text.takeWhile inside, text.dropWhile inside, List.takeWhile_append_dropWhile.symm, fun c member => ?_, ?_⟩
  · simpa [inside] using List.mem_takeWhile_imp member
  · cases rest : text.dropWhile inside with
    | nil => exact .inl rfl
    | cons c names =>
        have whole : text.takeWhile inside ++ c :: names = text := by rw [← rest, List.takeWhile_append_dropWhile]
        rw [← whole] at solid tailless
        have ending : endsLocation special c = true := by
          have stop := List.head_dropWhile_not inside (show text.dropWhile inside ≠ [] by simp [rest])
          simpa [rest, inside] using stop
        have marks := tailless.behind _
        simp only [Tailless, List.mem_cons, not_or] at marks
        have slash : isSlash special c = true := by
          simpa [endsLocation, Ne.symm marks.1.1, Ne.symm marks.2.1] using ending
        exact .inr ⟨c, names, rfl, slash, solid.behind _ slash⟩

def Opens (text : List Char) : Prop :=
  text = [] ∨ (∃ one two, text = [one, two] ∧ isSlash special one = true ∧ isSlash special two = true) ∨
    Solid special text

theorem Opens.solid {special : Bool} {text : List Char} {c : Char} (opens : Opens special text) (member : c ∈ text.take 2)
    (plain : isSlash special c = false) : Solid special text := by
  rcases opens with rfl | ⟨one, two, rfl, slash, another⟩ | solid
  · cases member
  · have either : c = one ∨ c = two := by simpa using member
    rcases either with rfl | rfl <;> simp_all
  · exact solid

theorem Opens.within {special : Bool} {rest : List Char} {one two : Char} (opens : Opens special (one :: two :: rest))
    (another : isSlash special two = true) : rest = [] ∨ Solid special rest := by
  rcases opens with empty | ⟨_, _, same, -⟩ | solid
  · cases empty
  · cases same
    exact .inl rfl
  · exact .inr (Solid.behind [one] solid another)

theorem Opens.second {special : Bool} {rest : List Char} {one : Char} (opens : Opens special (one :: rest))
    (slash : isSlash special one = true) : rest ≠ [] := by
  rintro rfl
  rcases opens with empty | ⟨_, _, same, -⟩ | solid
  · cases empty
  · cases same
  · obtain ⟨c, none, -⟩ := Solid.behind [] solid slash
    cases none

theorem place_end (place path : List Char) (inside : ∀ c ∈ place, endsLocation special c = false)
    (edge : path = [] ∨ ∃ c rest, path = c :: rest ∧ isSlash special c = true) :
    (place ++ path).takeWhile (!endsLocation special ·) = place := by
  rw [List.takeWhile_append_of_pos fun c member => by simp [inside c member]]
  rcases edge with rfl | ⟨c, rest, rfl, slash⟩
  · simp
  · simp [endsLocation, slash]

theorem place_drop (place path : List Char) : (place ++ path).drop place.length = path := List.drop_left

theorem slashes_edge (after : List Char) (count : Nat) (follows : Follows special after) :
    after ++ List.replicate count '/' = [] ∨
      ∃ c rest, after ++ List.replicate count '/' = c :: rest ∧ isSlash special c = true := by
  rcases follows with rfl | ⟨c, names, rfl, slash, -⟩
  · cases count with
    | zero => exact .inl rfl
    | succ count => exact .inr ⟨'/', _, rfl, rfl⟩
  · exact .inr ⟨c, _, rfl, slash⟩

theorem name_edge (after name : List Char) (follows : Follows special after) :
    after ++ '/' :: name = [] ∨ ∃ c rest, after ++ '/' :: name = c :: rest ∧ isSlash special c = true := by
  rcases follows with rfl | ⟨c, names, rfl, slash, -⟩
  · exact .inr ⟨'/', name, rfl, rfl⟩
  · exact .inr ⟨c, _, rfl, slash⟩

end Places

section Located

variable (scheme : String) {name : List Char} (slashes : Nat)

theorem path_after_slash (c : Char) (rest : List Char) (slash : isSlash (isSpecial scheme) c = true) :
    pathAfterHost scheme (c :: rest) = .segments (segments scheme rest) := by
  rw [pathAfterHost, if_pos slash]

theorem path_beneath (after : List Char) (follows : Follows (isSpecial scheme) after) (ordinary : Ordinary name) :
    Beneath slashes name (pathAfterHost scheme (after ++ List.replicate slashes '/')).chars
      (pathAfterHost scheme (after ++ '/' :: name)).chars := by
  rcases follows with rfl | ⟨c, names, rfl, slash, solid⟩
  · rw [List.nil_append, List.nil_append, path_after_slash scheme '/' name rfl]
    cases slashes with
    | zero =>
        rw [List.replicate_zero, pathAfterHost]
        split
        · exact ⟨[], 1, rfl, segments_name scheme name ordinary, .inl le_rfl⟩
        · exact ⟨[], 0, rfl, segments_name scheme name ordinary, .inr (by simp)⟩
    | succ count =>
        rw [List.replicate_succ, path_after_slash scheme '/' _ rfl]
        exact ⟨[], count + 1, segments_slashes scheme count, segments_name scheme name ordinary, .inl (by omega)⟩
  · rw [List.cons_append, List.cons_append, path_after_slash scheme c _ slash, path_after_slash scheme c _ slash]
    exact segments_beneath scheme names name slashes solid ordinary

theorem path_slashes (count : Nat) :
    ∃ more, (pathAfterHost scheme (List.replicate count '/')).chars = List.replicate more '/' := by
  cases count with
  | zero =>
      rw [List.replicate_zero, pathAfterHost]
      split
      · exact ⟨1, rfl⟩
      · exact ⟨0, rfl⟩
  | succ count =>
      rw [List.replicate_succ, path_after_slash scheme '/' _ rfl]
      exact ⟨count + 1, segments_slashes scheme count⟩

theorem located_at (place path : List Char) (inside : ∀ c ∈ place, endsLocation (isSpecial scheme) c = false)
    (edge : path = [] ∨ ∃ c rest, path = c :: rest ∧ isSlash (isSpecial scheme) c = true) (tailless : Tailless path) :
    located? scheme (place ++ path) =
      (location? scheme place).map fun url => withTail url (pathAfterHost scheme path) none none := by
  rw [located?]
  simp only [place_end _ place path inside edge, place_drop, split_tail_plain _ path tailless]
  cases location? scheme place <;> rfl

theorem located_below (text : List Char) (device : Url) (solid : text = [] ∨ Solid (isSpecial scheme) text)
    (tailless : Tailless text) (ordinary : Ordinary name)
    (read : located? scheme (text ++ List.replicate slashes '/') = some device) :
    ∃ below, located? scheme (text ++ '/' :: name) = some below ∧ Below slashes name device below := by
  obtain ⟨place, after, rfl, inside, follows⟩ := place_follows _ text solid tailless
  have plain := tailless.behind _
  rw [List.append_assoc, located_at scheme place _ inside (slashes_edge _ after slashes follows)
    (plain.append (tailless_slashes slashes))] at read
  obtain ⟨url, found, rfl⟩ := Option.map_eq_some_iff.mp read
  refine ⟨withTail url (pathAfterHost scheme (after ++ '/' :: name)) none none, ?_, rfl, rfl, rfl, rfl, ?_⟩
  · rw [List.append_assoc, located_at scheme place _ inside (name_edge _ after name follows)
      (plain.append ordinary.tailless), found]
    rfl
  · rw [path_chars, path_chars]
    exact path_beneath scheme slashes after follows ordinary

end Located

section Files

variable {name : List Char} (slashes : Nat)

theorem local_plain (text : List Char) (tailless : Tailless text) :
    localFile text = withTail { scheme := "file", host := some [] } (.segments (segments "file" text)) none none := by
  rw [localFile]
  simp only [split_tail_plain true text tailless]

theorem local_below (text : List Char) (solid : Solid true text) (tailless : Tailless text) (ordinary : Ordinary name) :
    Below slashes name (localFile (text ++ List.replicate slashes '/')) (localFile (text ++ '/' :: name)) := by
  rw [local_plain _ (tailless.append (tailless_slashes slashes)), local_plain _ (tailless.append ordinary.tailless)]
  refine ⟨rfl, rfl, rfl, rfl, ?_⟩
  rw [path_chars, path_chars]
  exact segments_beneath "file" text name slashes solid ordinary

theorem remote_at (place path : List Char) (inside : ∀ c ∈ place, endsLocation true c = false)
    (edge : path = [] ∨ ∃ c rest, path = c :: rest ∧ isSlash true c = true) (tailless : Tailless path)
    (away : isDrive place = false) :
    remoteFile? (place ++ path) = (if place.isEmpty then some [] else host? true place).map fun host =>
      withTail { scheme := "file", host := some (if host == "localhost".toList then [] else host) }
        (pathAfterHost "file" path) none none := by
  rw [remoteFile?]
  simp only [place_end _ place path inside edge, place_drop, split_tail_plain _ path tailless, away, Bool.false_eq_true,
    if_false]
  split
  · rfl
  · cases host? true place <;> rfl

theorem remote_drive (place path : List Char) (inside : ∀ c ∈ place, endsLocation true c = false)
    (edge : path = [] ∨ ∃ c rest, path = c :: rest ∧ isSlash true c = true) (drive : isDrive place = true) :
    remoteFile? (place ++ path) = some (localFile (place ++ path)) := by
  rw [remoteFile?]
  simp only [place_end _ place path inside edge, drive, if_true]
  rfl

theorem remote_below (text : List Char) (device : Url) (solid : text = [] ∨ Solid true text) (tailless : Tailless text)
    (ordinary : Ordinary name) (read : remoteFile? (text ++ List.replicate slashes '/') = some device) :
    ∃ below, remoteFile? (text ++ '/' :: name) = some below ∧ Below slashes name device below := by
  obtain ⟨place, after, rfl, inside, follows⟩ := place_follows _ text solid tailless
  have plain := tailless.behind _
  have ended := slashes_edge true after slashes follows
  have named := name_edge true after name follows
  by_cases drive : isDrive place = true
  · rw [List.append_assoc, remote_drive place _ inside ended drive, ← List.append_assoc] at read
    rw [List.append_assoc, remote_drive place _ inside named drive, ← List.append_assoc]
    have filled : place ++ after ≠ [] := by
      intro empty
      rw [(List.append_eq_nil_iff.mp empty).1] at drive
      cases drive
    exact ⟨_, rfl, Option.some.inj read ▸ local_below slashes _ (solid.resolve_left filled) tailless ordinary⟩
  · have away : isDrive place = false := by simpa using drive
    rw [List.append_assoc, remote_at place _ inside ended (plain.append (tailless_slashes slashes)) away] at read
    rw [List.append_assoc, remote_at place _ inside named (plain.append ordinary.tailless) away]
    obtain ⟨host, found, rfl⟩ := Option.map_eq_some_iff.mp read
    rw [found]
    refine ⟨_, rfl, rfl, rfl, rfl, rfl, ?_⟩
    rw [path_chars, path_chars]
    exact path_beneath "file" slashes after follows ordinary

theorem file_plain (c : Char) (rest : List Char) (plain : isSlash true c = false) :
    file? (c :: rest) = some (localFile (c :: rest)) := by
  simp only [file?, plain, Bool.false_eq_true, if_false]

theorem file_one_slash (c d : Char) (rest : List Char) (slash : isSlash true c = true) (plain : isSlash true d = false) :
    file? (c :: d :: rest) = some (localFile (d :: rest)) := by
  simp only [file?, slash, plain, Bool.false_eq_true, if_false, if_true]

theorem file_two_slashes (c d : Char) (rest : List Char) (slash : isSlash true c = true) (another : isSlash true d = true) :
    file? (c :: d :: rest) = remoteFile? rest := by
  simp only [file?, slash, another, if_true]

theorem file_slashes (device : Url) (read : file? (List.replicate slashes '/') = some device) :
    ∃ path more, device = withTail { scheme := "file", host := some [] } path none none ∧
      path.chars = List.replicate more '/' := by
  have top : localFile [] = withTail { scheme := "file", host := some [] } (.segments [[]]) none none := by decide
  match slashes with
  | 0 | 1 => exact ⟨_, 1, (Option.some.inj read).symm.trans top, rfl⟩
  | count + 2 =>
      have edge := slashes_edge true [] count (.inl rfl)
      have alone := remote_at [] (List.replicate count '/') (by simp) edge (tailless_slashes count) rfl
      rw [List.replicate_succ, List.replicate_succ, file_two_slashes _ _ _ rfl rfl] at read
      obtain ⟨more, path⟩ := path_slashes "file" count
      exact ⟨_, more, Option.some.inj (read.symm.trans alone), path⟩

theorem file_below (text : List Char) (device : Url) (opens : Opens true text) (tailless : Tailless text)
    (ordinary : Ordinary name) (read : file? (text ++ List.replicate slashes '/') = some device) :
    ∃ below, file? (text ++ '/' :: name) = some below ∧ Below slashes name device below := by
  rcases text with _ | ⟨c, rest⟩
  · obtain ⟨path, more, rfl, only⟩ := file_slashes slashes device read
    obtain ⟨d, letters, rfl⟩ := List.exists_cons_of_ne_nil ordinary.filled
    have plain := ordinary.whole d List.mem_cons_self
    have marks := ordinary.tailless
    refine ⟨_, file_one_slash '/' d letters rfl plain, ?_⟩
    rw [local_plain _ (marks.behind ['/'])]
    refine ⟨rfl, rfl, rfl, rfl, [], more, ?_, ?_, .inr (by simp)⟩
    · rw [path_chars]
      exact only
    · rw [path_chars]
      exact segments_name "file" _ ordinary
  by_cases slash : isSlash true c = true
  · have marks := tailless.behind [c]
    obtain ⟨d, rest, rfl⟩ := List.exists_cons_of_ne_nil (opens.second slash)
    by_cases another : isSlash true d = true
    · rw [List.cons_append, List.cons_append, file_two_slashes c d _ slash another] at read
      rw [List.cons_append, List.cons_append, file_two_slashes c d _ slash another]
      exact remote_below slashes rest device (opens.within another) (marks.behind [d]) ordinary read
    · have plain : isSlash true d = false := by simpa using another
      have inner : Solid true (d :: rest) := Solid.behind [] (opens.solid (by simp) plain) slash
      rw [List.cons_append, List.cons_append, file_one_slash c d _ slash plain] at read
      refine ⟨_, file_one_slash c d _ slash plain, ?_⟩
      exact Option.some.inj read ▸ local_below slashes (d :: rest) inner marks ordinary
  · have plain : isSlash true c = false := by simpa using slash
    rw [List.cons_append, file_plain c _ plain] at read
    refine ⟨_, file_plain c _ plain, ?_⟩
    exact Option.some.inj read ▸ local_below slashes (c :: rest) (opens.solid (by simp) plain) tailless ordinary

end Files

section Others

variable (scheme : String) {name : List Char} (slashes : Nat)

theorem generic_path (rest : List Char) (single : rest.head? ≠ some '/') (tailless : Tailless rest) :
    generic? scheme ('/' :: rest) = some (withTail { scheme := scheme } (.segments (segments scheme rest)) none none) := by
  rw [generic?]
  · simp only [split_tail_plain false rest tailless]
  · rintro more rfl
    exact single rfl

theorem generic_unlocated (text : List Char) (apart : text.head? ≠ some '/') (tailless : Tailless text) :
    generic? scheme text =
      some (withTail { scheme := scheme } (.opaqueText (percentEncode encodesInOpaque text)) none none) := by
  rw [generic?]
  · simp only [split_tail_plain false text tailless]
  · rintro more rfl
    exact apart rfl
  · rintro more rfl
    exact apart rfl

theorem unlocated_beneath (text : List Char) (solid : Solid false text) (ordinary : Ordinary name) :
    Beneath slashes name (percentEncode encodesInOpaque (text ++ List.replicate slashes '/'))
      (percentEncode encodesInOpaque (text ++ '/' :: name)) := by
  have slash : encodesInOpaque '/' = false := rfl
  have only : percentEncode encodesInOpaque (List.replicate slashes '/') = List.replicate slashes '/' :=
    encoded_same _ _ fun c member => List.eq_of_mem_replicate member ▸ slash
  have same : percentEncode encodesInOpaque ('/' :: name) = '/' :: name := by
    refine encoded_same _ _ fun c member => ?_
    rcases List.mem_cons.mp member with rfl | inside
    · rfl
    · exact kept_unlocated c (ordinary.kept c inside)
  refine ⟨percentEncode encodesInOpaque text, slashes, ?_, ?_, .inr ?_⟩
  · rw [encoded_append, only]
  · rw [encoded_append, same]
  · obtain ⟨c, last, plain⟩ := solid
    obtain ⟨begun, rfl⟩ := List.getLast?_eq_some_iff.mp last
    rw [encoded_append]
    have apart : '/' ∉ [c] := by simpa using Ne.symm (slash_apart false c plain)
    exact ends_whole _ _ (encoded_filled _ [c] (by simp)) (encoded_no_slash _ [c] apart)

theorem location_empty (other : isSpecial scheme = false) :
    location? scheme [] = some { scheme := scheme, host := some [] } := by
  simp [location?, splitCredentials, splitPort, other, port?, Number.valueOf, percentEncode]

theorem generic_slashes (device : Url) (other : isSpecial scheme = false)
    (read : generic? scheme (List.replicate slashes '/') = some device) :
    device.scheme = scheme ∧ device.hostName = "" ∧ device.port = none ∧
      ∃ more, device.pathChars = List.replicate more '/' := by
  match slashes with
  | 0 =>
      cases read
      exact ⟨rfl, rfl, rfl, 0, rfl⟩
  | 1 =>
      cases read.symm.trans (generic_path scheme [] (by simp) (by simp [Tailless]))
      refine ⟨rfl, rfl, rfl, 1, ?_⟩
      rw [path_chars]
      exact segments_slashes scheme 0
  | count + 2 =>
      have edge := slashes_edge (isSpecial scheme) [] count (.inl rfl)
      have alone := located_at scheme [] (List.replicate count '/') (by simp) edge (tailless_slashes count)
      rw [location_empty scheme other] at alone
      cases read.symm.trans alone
      obtain ⟨more, path⟩ := path_slashes scheme count
      refine ⟨rfl, rfl, rfl, more, ?_⟩
      rw [path_chars]
      exact path

theorem generic_below (text : List Char) (device : Url) (other : isSpecial scheme = false) (opens : Opens false text)
    (tailless : Tailless text) (ordinary : Ordinary name)
    (read : generic? scheme (text ++ List.replicate slashes '/') = some device) :
    ∃ below, generic? scheme (text ++ '/' :: name) = some below ∧ Below slashes name device below := by
  have slashed := tailless_slashes slashes
  have plain_slash (c : Char) (apart : c ≠ '/') : isSlash false c = false := by simp [isSlash, apart]
  rcases text with _ | ⟨c, rest⟩
  · obtain ⟨same, host, port, more, only⟩ := generic_slashes scheme slashes device other read
    have single : name.head? ≠ some '/' := fun first =>
      slash_apart true '/' (ordinary.whole '/' (List.mem_of_mem_head? first)) rfl
    refine ⟨_, generic_path scheme name single (ordinary.tailless.behind ['/']), ?_⟩
    refine ⟨same.symm, host.symm, port.symm, rfl, [], more, only, ?_, .inr (by simp)⟩
    rw [path_chars]
    exact segments_name scheme name ordinary
  by_cases start : c = '/'
  · subst start
    have marks := tailless.behind ['/']
    obtain ⟨d, rest, rfl⟩ := List.exists_cons_of_ne_nil (opens.second rfl)
    by_cases another : d = '/'
    · subst another
      have within := opens.within rfl
      rw [← other] at within
      exact located_below scheme slashes rest device within (marks.behind ['/']) ordinary read
    · have single (more : List Char) : (d :: rest ++ more).head? ≠ some '/' := by simpa using another
      have inner : Solid false (d :: rest) :=
        Solid.behind [] (opens.solid (by simp) (plain_slash d another)) rfl
      rw [List.cons_append, generic_path scheme _ (single _) (marks.append slashed)] at read
      refine ⟨_, generic_path scheme _ (single _) (marks.append ordinary.tailless), ?_⟩
      cases read
      rw [← other] at inner
      refine ⟨rfl, rfl, rfl, rfl, ?_⟩
      rw [path_chars, path_chars]
      exact segments_beneath scheme _ name slashes inner ordinary
  · have apart (more : List Char) : (c :: rest ++ more).head? ≠ some '/' := by simpa using start
    rw [generic_unlocated scheme _ (apart _) (tailless.append slashed)] at read
    refine ⟨_, generic_unlocated scheme _ (apart _) (tailless.append ordinary.tailless), ?_⟩
    cases read
    refine ⟨rfl, rfl, rfl, rfl, ?_⟩
    rw [path_chars, path_chars]
    exact unlocated_beneath slashes _ (opens.solid (by simp) (plain_slash c start)) ordinary

end Others

def behindScheme? (scheme : String) (rest : List Char) : Option Url :=
  if scheme == "file" then file? rest
  else if isSpecial scheme then located? scheme (rest.dropWhile (isSlash true))
  else generic? scheme rest

theorem location_missing (scheme : String) (special : isSpecial scheme = true) : location? scheme [] = none := by
  simp [location?, splitCredentials, splitPort, special]

theorem behind_scheme_below (scheme : String) {name : List Char} (slashes : Nat) (text : List Char) (device : Url)
    (opens : Opens (isSpecial scheme) text) (tailless : Tailless text) (ordinary : Ordinary name)
    (read : behindScheme? scheme (text ++ List.replicate slashes '/') = some device) :
    ∃ below, behindScheme? scheme (text ++ '/' :: name) = some below ∧ Below slashes name device below := by
  rw [behindScheme?] at read ⊢
  by_cases file : scheme = "file"
  · subst file
    exact file_below slashes text device opens tailless ordinary read
  rw [if_neg (by simpa using file)] at read ⊢
  by_cases special : isSpecial scheme = true
  · rw [if_pos special] at read ⊢
    -- Slashes before the host count for nothing, and a host there must be.
    have filled : text.dropWhile (isSlash true) ≠ [] := by
      intro empty
      have slash : ∀ c ∈ List.replicate slashes '/', isSlash true c = true := by
        intro c member
        rw [List.eq_of_mem_replicate member]
        rfl
      rw [List.dropWhile_append, if_pos (by simp [empty]), List.dropWhile_eq_nil_iff.mpr slash, located?,
        List.takeWhile_nil, location_missing scheme special] at read
      cases read
    have onto (rest : List Char) :
        (text ++ rest).dropWhile (isSlash true) = text.dropWhile (isSlash true) ++ rest := by
      rw [List.dropWhile_append, if_neg (by simpa using filled)]
    have whole : text.takeWhile (isSlash true) ++ text.dropWhile (isSlash true) = text := List.takeWhile_append_dropWhile
    have solid : Solid (isSpecial scheme) text := by
      rcases opens with rfl | ⟨one, two, rfl, slash, another⟩ | solid
      · exact absurd rfl filled
      · rw [special] at slash another
        simp [slash, another] at filled
      · exact solid
    have inner : Solid (isSpecial scheme) (text.dropWhile (isSlash true)) := by
      rw [← whole] at solid
      exact solid.of_append filled
    have marks : Tailless (text.dropWhile (isSlash true)) := by
      rw [← whole] at tailless
      exact tailless.behind _
    rw [onto] at read ⊢
    exact located_below scheme slashes _ device (.inr inner) marks ordinary read
  · have other : isSpecial scheme = false := by simpa using special
    rw [if_neg special] at read ⊢
    rw [other] at opens
    exact generic_below scheme slashes text device other opens tailless ordinary read

end DeviceLogin.Url
