import PortSurvey.Proofs.Artifact.Forms
import PortSurvey.Proofs.Dict

/-!
# Variables in published ports

A composition may leave the port outside the container to a variable, whose value it does not know. Such
an entry is one declaration without a port outside the container (`readShort_variableEntry`). It is cut
at its last two colons like any other, and a default has a colon of its own before it
(`splitAddress_variableEntry`). `variable_published` says what follows for the address: it is the one
that was written exactly if there is no default.
-/

namespace PortSurvey.Artifact.Compose

open Text
open Yaml (Value)

/-! ## Entries with a variable -/

/-- A variable with the text that stands for it by default, if there is one. -/
def variableForm (name : String) : Option String → String
  | none => "$\x7b" ++ (name ++ "\x7d")
  | some text => "$\x7b" ++ (name ++ (":-" ++ (text ++ "\x7d")))

/-- What stands before a port outside the container: an address as it is written and a colon. -/
def addressForm : Option String → String
  | none => ""
  | some written => written ++ ":"

/-- A port inside the container with a variable for the port outside, and an address before it. -/
def variableEntry (written : Option String) (name : String) (default : Option String)
    (container : Nat) : String :=
  addressForm written ++ (variableForm name default ++ (":" ++ toString container))

/-- What stands before the last colon but one of such an entry. -/
def cutAddress (written : Option String) (name : String) : Option String → Option String
  | none => written
  | some _ => some (addressForm written ++ ("$\x7b" ++ name))

/-- A text without the characters at which the short form is cut. -/
def Uncut (s : String) : Prop :=
  ':' ∉ s.toList ∧ '/' ∉ s.toList

/-! ## How a variable is taken apart -/

/-- What stands between the last two colons of an entry with a variable, or before its only colon. -/
def hostPart (name : String) : Option String → List Char
  | none => '$' :: '\x7b' :: (name.toList ++ ['\x7d'])
  | some text => '-' :: (text.toList ++ ['\x7d'])

/-- Neither a variable nor the end of one is a port outside the container. -/
theorem hostPorts_hostPart (name : String) (default : Option String) (container : Nat) :
    hostPorts (((some (hostPart name default)).map trimChars).filter fun h => !h.isEmpty)
      [container] = [none] := by
  -- Both begin with a character that neither a number nor a blank begins with.
  have hnone : ∀ (c : Char) (rest : List Char), isBlank c = false → c.isDigit = false → c ≠ '+' →
      hostPorts (((some (c :: rest)).map trimChars).filter fun h => !h.isEmpty) [container] =
        [none] := by
    intro c rest hblank hdigit hplus
    rw [Option.map_some, trimChars_cons hblank, filter_some_of_ne_nil (List.cons_ne_nil _ _)]
    unfold hostPorts
    rw [Option.bind_some, Port.readRange?_cons_eq_none hblank hdigit hplus]
    rfl
  cases default with
  | none => exact hnone '$' _ (by decide) (by decide) (by decide)
  | some text => exact hnone '-' _ (by decide) (by decide) (by decide)

/-- An entry with a variable ends with a colon and the port inside the container. -/
theorem toList_variableEntry (written : Option String) (name : String) (default : Option String)
    (container : Nat) : (variableEntry written name default container).toList =
      ((addressForm written).toList ++ (variableForm name default).toList) ++
        ':' :: Nat.toDigits 10 container := by
  unfold variableEntry
  rw [String.toList_append, String.toList_append, String.toList_append, toList_toString,
    List.append_assoc]
  rfl

/-- An entry with a variable is cut at its last two colons: at the one in the variable, if there is a
default, and else at the one behind the address, if there is an address. -/
theorem splitAddress_variableEntry (written : Option String) {name : String} (hname : Uncut name)
    {default : Option String} (hdefault : ∀ text ∈ default, Uncut text) (container : Nat) :
    splitAddress (variableEntry written name default container).toList =
      (Nat.toDigits 10 container, some (hostPart name default),
        (cutAddress written name default).map String.toList) := by
  have hcontainer : ':' ∉ Nat.toDigits 10 container := notMem_toDigits (by decide) container
  rw [toList_variableEntry]
  cases default with
  | none =>
    -- The variable has no colon, so it stands between the last two or before the only one.
    have hvariable : (variableForm name none).toList = hostPart name none := by
      rw [variableForm, String.toList_append, String.toList_append]
      rfl
    have hhost : ':' ∉ hostPart name none := by
      simpa [hostPart] using hname.1
    rw [hvariable]
    cases written with
    | none => exact splitAddress_pair hhost hcontainer
    | some w =>
      have hfront : (addressForm (some w)).toList ++ hostPart name none =
          w.toList ++ ':' :: hostPart name none := by
        rw [addressForm, String.toList_append, List.append_assoc]
        rfl
      rw [hfront]
      exact splitAddress_triple w.toList hhost hcontainer
  | some text =>
    -- The last colon but one is that of the variable, whatever stands before it.
    have hvariable : (variableForm name (some text)).toList =
        ("$\x7b" ++ name).toList ++ ':' :: hostPart name (some text) := by
      rw [variableForm, String.toList_append, String.toList_append, String.toList_append,
        String.toList_append, String.toList_append, List.append_assoc]
      rfl
    have hhost : ':' ∉ hostPart name (some text) := by
      simpa [hostPart] using (hdefault text rfl).1
    rw [hvariable, ← List.append_assoc, splitAddress_triple _ hhost hcontainer, cutAddress,
      Option.map_some]
    exact congrArg (fun taken => (_, _, some taken)) String.toList_append.symm

/-- An entry with a variable has no slash. -/
theorem slash_notMem_variableEntry {written : Option String}
    (hwritten : ∀ w ∈ written, '/' ∉ w.toList) {name : String} (hname : Uncut name)
    {default : Option String} (hdefault : ∀ text ∈ default, Uncut text) (container : Nat) :
    '/' ∉ (variableEntry written name default container).toList := by
  have haddress : '/' ∉ (addressForm written).toList := by
    cases written with
    | none => exact List.not_mem_nil
    | some w =>
      rw [addressForm, String.toList_append]
      simpa using hwritten w rfl
  have hvariable : '/' ∉ (variableForm name default).toList := by
    cases default with
    | none => simpa [variableForm] using hname.2
    | some text => simpa [variableForm] using ⟨hname.2, (hdefault text rfl).2⟩
  rw [toList_variableEntry]
  simp [haddress, hvariable, notMem_toDigits]

/-- An entry with a variable begins with an address or with the sign of a variable. -/
theorem isBlank_head_variableEntry {written : Option String}
    (hwritten : ∀ w ∈ written, w.toList ≠ [] ∧ ∀ c ∈ w.toList.head?, isBlank c = false)
    (name : String) (default : Option String) (container : Nat) :
    ∀ c ∈ (variableEntry written name default container).toList.head?, isBlank c = false := by
  rw [toList_variableEntry]
  cases written with
  | none =>
    intro c hc
    have hdollar : ∃ rest, (variableForm name default).toList = '$' :: rest := by
      cases default <;> exact ⟨_, by rw [variableForm, String.toList_append]; rfl⟩
    obtain ⟨rest, hrest⟩ := hdollar
    rw [hrest] at hc
    obtain rfl := Option.mem_some_iff.mp hc
    decide
  | some w =>
    obtain ⟨hne, hblank⟩ := hwritten w rfl
    rw [addressForm, String.toList_append, List.append_assoc, List.append_assoc,
      List.head?_append_of_ne_nil _ hne]
    exact hblank

/-- An entry with a variable has no blanks at its ends, and is all in front of the transport. -/
theorem splitProtocol_variableEntry {address written : Option String}
    (haddress : ∀ a ∈ address, PlainAddress a) (hwritten : Option.Rel WrittenAs address written)
    {name : String} (hname : Uncut name) {default : Option String}
    (hdefault : ∀ text ∈ default, Uncut text) (container : Nat) :
    splitProtocol (trimChars (variableEntry written name default container).toList) =
      ((variableEntry written name default container).toList, defaultProtocol) := by
  have hplain : ∀ w ∈ written,
      w.toList ≠ [] ∧ '/' ∉ w.toList ∧ ∀ c ∈ w.toList.head?, isBlank c = false := by
    intro w hw
    cases hwritten with
    | some h =>
      obtain rfl := Option.mem_some_iff.mp hw
      exact (haddress _ rfl).written h
    | none => cases hw
  have hslash := slash_notMem_variableEntry (fun w hw => (hplain w hw).2.1) hname hdefault container
  have hhead := isBlank_head_variableEntry (fun w hw => ⟨(hplain w hw).1, (hplain w hw).2.2⟩) name
    default container
  have hdigits : trimEndChars (Nat.toDigits 10 container) = Nat.toDigits 10 container := by
    have htrim := trimChars_eq_self fun c (hc : c ∈ Nat.toDigits 10 container) => isBlank_of_mem_toDigits hc
    unfold trimChars at htrim
    rwa [trimStartChars_eq_self fun c hc => isBlank_of_mem_toDigits (List.mem_of_mem_head? hc)] at htrim
  have htrim : trimChars (variableEntry written name default container).toList =
      (variableEntry written name default container).toList := by
    unfold trimChars
    rw [trimStartChars_eq_self hhead, toList_variableEntry, trimEndChars_append_cons _ (by decide),
      hdigits]
  rw [htrim, splitProtocol_of_notMem hslash]

/-! ## What is taken for the address -/

/-- Brackets are taken off the ends of a text up to a character that is none. -/
theorem exists_trimBrackets_append_cons (s : List Char) {c : Char} (hc : (c == '[' || c == ']') = false)
    (t : List Char) : ∃ t', trimBrackets (s ++ c :: t) =
      (s.dropWhile fun c => c == '[' || c == ']') ++ c :: t' := by
  unfold trimBrackets
  dsimp only
  rw [dropWhile_append_cons hc, reverse_dropWhile_append_cons hc]
  exact ⟨_, rfl⟩

/-- The address of an address that is written and goes on is not the address. -/
theorem trimBrackets_append_ne {address written : String} (h : PlainAddress address)
    (hwritten : WrittenAs address written) {c : Char} (hc : (c == '[' || c == ']') = false)
    (t : List Char) : trimBrackets (written.toList ++ c :: t) ≠ address.toList := by
  obtain ⟨t', htrim⟩ := exists_trimBrackets_append_cons written.toList hc t
  have hfirst : ∀ c ∈ address.toList.head?, (c == '[' || c == ']') = false := fun c hc =>
    Bool.eq_false_iff.mpr fun hbracket => h.no_first_bracket c hc (by simpa [IsBracket] using hbracket)
  -- What is left is longer than the address, with or without the bracket behind it.
  have hlength : address.toList.length ≤
      (written.toList.dropWhile fun c => c == '[' || c == ']').length := by
    rcases hwritten with rfl | rfl
    · rw [dropWhile_eq_self hfirst]
    · have hfront : ∀ c ∈ (address.toList ++ [']']).head?, (c == '[' || c == ']') = false := by
        have hne : address.toList ≠ [] := mt String.toList_eq_nil_iff.mp h.ne_empty
        rw [List.head?_append_of_ne_nil _ hne]
        exact hfirst
      rw [toList_bracketed, List.dropWhile_cons_of_pos (by decide), dropWhile_eq_self hfront,
        List.length_append]
      exact Nat.le_add_right _ _
  intro heq
  have hlengths := congrArg List.length (htrim.symm.trans heq)
  rw [List.length_append, List.length_cons] at hlengths
  omega

/-- The address that is read from what stands before the last colon but one. -/
def addressOf (written : String) : String :=
  String.ofList (trimBrackets written.toList)

/-- An address that is written is read as the address. -/
theorem map_addressOf {address written : Option String} (haddress : ∀ a ∈ address, PlainAddress a)
    (hwritten : Option.Rel WrittenAs address written) : written.map addressOf = address := by
  cases hwritten with
  | none => rfl
  | some h => rw [Option.map_some, addressOf, trimBrackets_of_writtenAs (haddress _ rfl) h,
      String.ofList_toList]

/-- A variable with a default changes the address that is read. -/
theorem map_addressOf_cutAddress_ne {address written : Option String}
    (haddress : ∀ a ∈ address, PlainAddress a) (hwritten : Option.Rel WrittenAs address written)
    (name text : String) : (cutAddress written name (some text)).map addressOf ≠ address := by
  cases hwritten with
  | none => exact fun h => Option.some_ne_none _ h
  | @some a w h =>
    rw [cutAddress, Option.map_some]
    intro heq
    refine trimBrackets_append_ne (haddress a rfl) h (c := ':') (by decide)
      ('$' :: '\x7b' :: name.toList) ?_
    have hchars := congrArg String.toList (Option.some.inj heq)
    rw [addressOf, String.toList_ofList, addressForm, String.toList_append, String.toList_append,
      String.toList_append, List.append_assoc] at hchars
    exact hchars

/-- What is taken for an address of an entry with a variable is not empty. -/
theorem trimBrackets_cutAddress_ne_nil {address written : Option String}
    (haddress : ∀ a ∈ address, PlainAddress a) (hwritten : Option.Rel WrittenAs address written)
    (name : String) (default : Option String) :
    ∀ taken ∈ cutAddress written name default, trimBrackets taken.toList ≠ [] := by
  intro taken htaken
  cases default with
  | none =>
    cases hwritten with
    | none => cases htaken
    | @some a w h =>
      obtain rfl : w = taken := Option.some.inj htaken
      rw [trimBrackets_of_writtenAs (haddress a rfl) h]
      exact mt String.toList_eq_nil_iff.mp (haddress a rfl).ne_empty
  | some text =>
    obtain rfl := Option.some.inj htaken
    obtain ⟨t, htrim⟩ := exists_trimBrackets_append_cons (addressForm written).toList (c := '$')
      (by decide) ('\x7b' :: name.toList)
    rw [String.toList_append, String.toList_append]
    exact htrim ▸ List.append_ne_nil_of_right_ne_nil _ (List.cons_ne_nil _ _)

/-! ## What is read -/

/-- An entry with a variable is read as one port without a port outside the container, at the address
that stands before its last colon but one. -/
theorem readShort_variableEntry {address written : Option String}
    (haddress : ∀ a ∈ address, PlainAddress a) (hwritten : Option.Rel WrittenAs address written)
    {name : String} (hname : Uncut name) {default : Option String}
    (hdefault : ∀ text ∈ default, Uncut text) {container : Nat} (hcontainer : Port.Valid container) :
    readShort (variableEntry written name default container).toList =
      [⟨container, none, defaultProtocol, (cutAddress written name default).map addressOf⟩] := by
  have hread : ((((cutAddress written name default).map String.toList).map trimBrackets).filter
      fun a => !a.isEmpty).map String.ofList = (cutAddress written name default).map addressOf := by
    have hne := trimBrackets_cutAddress_ne_nil haddress hwritten name default
    cases hcut : cutAddress written name default with
    | none => rfl
    | some taken =>
      rw [Option.map_some, Option.map_some, filter_some_of_ne_nil (hne taken hcut)]
      rfl
  unfold readShort
  rw [splitProtocol_variableEntry haddress hwritten hname hdefault]
  dsimp only
  rw [splitAddress_variableEntry written hname hdefault, Port.readRange?_toDigits hcontainer]
  dsimp only
  rw [hostPorts_hostPart, List.zipWith_cons_cons, List.zipWith_nil_left, hread]

/-- A declaration tells the address at which its port is published. -/
theorem address_declare (file : File) (service : String) (image : Option String) (exposed : Bool)
    (port : Published) :
    (declare file service image exposed port).context.find? "host_ip" = port.address := by
  have hplain : ∀ d : Declaration, d.context.find? "host_ip" = none →
      ((d.withContext? "image" image).withContext? "host_ip" port.address).context.find? "host_ip" =
        port.address := by
    intro d hd
    cases image <;> cases port.address <;>
      simp [Declaration.withContext?, Declaration.withContext, Dict.find?_insert, hd]
  unfold declare
  refine hplain _ ?_
  unfold Declaration.withProtocol
  generalize transportName port.protocol = transport
  cases exposed <;> rfl

/-- An entry with a variable declares one port, without a port outside the container. It is declared at
the address that was written exactly if the variable has no default. Otherwise what stands before the
default is taken for the address. -/
theorem variable_published (file : File) (service : String) (image : Option String)
    {address written : Option String} (haddress : ∀ a ∈ address, PlainAddress a)
    (hwritten : Option.Rel WrittenAs address written) {name : String} (hname : Uncut name)
    {default : Option String} (hdefault : ∀ text ∈ default, Uncut text) {container : Nat}
    (hcontainer : Port.Valid container) :
    publishedBy file service image (.string (variableEntry written name default container)) =
        [declare file service image false
          ⟨container, none, defaultProtocol, (cutAddress written name default).map addressOf⟩] ∧
      (publishedBy file service image (.string (variableEntry written name default container)) =
        [declare file service image false ⟨container, none, defaultProtocol, address⟩] ↔
          default = none) := by
  have hread : publishedBy file service image (.string (variableEntry written name default container)) =
      [declare file service image false
        ⟨container, none, defaultProtocol, (cutAddress written name default).map addressOf⟩] := by
    unfold publishedBy readPublished
    dsimp only
    rw [readShort_variableEntry haddress hwritten hname hdefault hcontainer, List.map_singleton]
  refine ⟨hread, ?_⟩
  rw [hread]
  constructor
  · intro h
    have haddresses := congrArg (fun d => d.context.find? "host_ip") (List.head_eq_of_cons_eq h)
    rw [address_declare, address_declare] at haddresses
    cases default with
    | none => rfl
    | some text => exact absurd haddresses (map_addressOf_cutAddress_ne haddress hwritten name text)
  · rintro rfl
    rw [cutAddress, map_addressOf haddress hwritten]

/-- A variable stands for the port outside the container at an address that is written in brackets. -/
theorem variable_published_bracketed :
    let file : File := ⟨⟨"compose.yaml"⟩, "compose.yaml", "shop"⟩
    let declared (address : String) := declare file "web" none false ⟨80, none, "tcp", some address⟩
    PlainAddress "::1" ∧ WrittenAs "::1" "[::1]" ∧ Uncut "HTTP" ∧ Uncut "8080" ∧ Port.Valid 80 ∧
      publishedBy file "web" none (.string "[::1]:$\x7bHTTP\x7d:80") = [declared "::1"] ∧
      publishedBy file "web" none (.string "[::1]:$\x7bHTTP:-8080\x7d:80") =
        [declared "::1]:$\x7bHTTP"] := by
  intro file declared
  have hfirst : ∀ c ∈ "::1".toList.head?, c = ':' := fun c hc => (Option.some.inj hc).symm
  have hlast : ∀ c ∈ "::1".toList.getLast?, c = '1' := fun c hc => (Option.some.inj hc).symm
  have haddress : PlainAddress "::1" := by
    refine ⟨by decide, by decide, fun c hc => ?_, fun c hc => ?_, fun c hc => ?_⟩
    · rw [hfirst c hc]
      decide
    · rw [hfirst c hc]
      unfold IsBracket
      decide
    · rw [hlast c hc]
      unfold IsBracket
      decide
  have hwritten : WrittenAs "::1" "[::1]" := .inr (by decide)
  have haddresses : ∀ a ∈ some "::1", PlainAddress a := fun a ha => Option.some.inj ha ▸ haddress
  have hname : Uncut "HTTP" := ⟨by decide, by decide⟩
  have htext : Uncut "8080" := ⟨by decide, by decide⟩
  have hport : Port.Valid 80 := ⟨by decide, by decide⟩
  have hnoText : ∀ text ∈ (none : Option String), Uncut text :=
    fun text h => absurd h (Option.not_mem_none text)
  have htexts : ∀ text ∈ some "8080", Uncut text := fun text h => Option.some.inj h ▸ htext
  have hnone :=
    (variable_published file "web" none haddresses (.some hwritten) hname hnoText hport).2.mpr rfl
  have hdefault :=
    (variable_published file "web" none haddresses (.some hwritten) hname htexts hport).1
  have hform : variableEntry (some "[::1]") "HTTP" none 80 = "[::1]:$\x7bHTTP\x7d:80" := by
    decide +kernel
  have hform' : variableEntry (some "[::1]") "HTTP" (some "8080") 80 =
      "[::1]:$\x7bHTTP:-8080\x7d:80" := by
    decide +kernel
  have htaken : (cutAddress (some "[::1]") "HTTP" (some "8080")).map addressOf =
      some "::1]:$\x7bHTTP" := by
    decide +kernel
  rw [hform] at hnone
  rw [hform', htaken] at hdefault
  exact ⟨haddress, hwritten, hname, htext, hport, hnone, hdefault⟩

/-- A variable with a default is taken for an address, with or without one before it. -/
theorem not_variable_published :
    let file : File := ⟨⟨"docker-compose.yml"⟩, "docker-compose.yml", "svc"⟩
    let declared (address : Option String) := declare file "web" none false ⟨80, none, "tcp", address⟩
    let alone := publishedBy file "web" none (.string "$\x7bHOST_PORT:-8080\x7d:80")
    let behind := publishedBy file "web" none (.string "127.0.0.1:$\x7bHOST_PORT:-8080\x7d:80")
    alone = [declared (some "$\x7bHOST_PORT")] ∧ alone ≠ [declared none] ∧
      behind = [declared (some "127.0.0.1:$\x7bHOST_PORT")] ∧ behind ≠ [declared (some "127.0.0.1")] := by
  decide +kernel

end PortSurvey.Artifact.Compose
