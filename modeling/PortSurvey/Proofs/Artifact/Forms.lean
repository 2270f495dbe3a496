import PortSurvey.Artifact.Compose
import PortSurvey.Proofs.Port.Written

/-!
# The forms of a published port

A composition writes a port in several ways, and all of them are read as the same declarations
(`forms_agree`). `shortForm` and `longForm` write a port as a text and as a mapping: the text is
taken apart where it was put together, at its first slash and at its last two colons, so that an
address may hold colons of its own. A number and its text are read alike, and a range of ports on
both sides is read as the pairs that it stands for, one after the other.
-/

namespace PortSurvey.Artifact.Compose

open Text
open Yaml (Value)

/-! ## The forms -/

/-- What stands before the port inside the container: an address as it is written, the port outside,
and a colon after each. Where there is an address the port outside may be left empty. -/
def frontForm : Option String → Option Nat → String
  | none, none => ""
  | none, some host => toString host ++ ":"
  | some address, none => address ++ "::"
  | some address, some host => address ++ (":" ++ (toString host ++ ":"))

/-- A port in the short form. -/
def shortForm (address : Option String) (host : Option Nat) (container : Nat) (protocol : String) :
    String :=
  frontForm address host ++ (toString container ++ ("/" ++ protocol))

/-- A port in the long form. -/
def longForm (address : Option String) (host : Option Nat) (container : Nat) (protocol : String) :
    Value :=
  .mapping <|
    (.string "target", .number (.whole container)) ::
      (host.toList.map (fun h : Nat => (Value.string "published", Value.number (.whole h))) ++
        ((.string "protocol", .string protocol) ::
          address.toList.map fun a => (Value.string "host_ip", Value.string a)))

/-- The short form of two ranges of ports, from first to last outside and inside the containers. -/
def rangeForm (firstHost lastHost firstContainer lastContainer : Nat) : String :=
  toString firstHost ++ ("-" ++ (toString lastHost ++ (":" ++
    (toString firstContainer ++ ("-" ++ toString lastContainer)))))

/-- The short form of a port outside and one inside the container. -/
def pairForm (host container : Nat) : String :=
  toString host ++ (":" ++ toString container)

/-- A character is a bracket as they stand around an address. -/
def IsBracket (c : Char) : Prop :=
  c = '[' ∨ c = ']'

/-- An address that can stand in the short form. -/
structure PlainAddress (address : String) : Prop where
  /-- It is not empty. -/
  ne_empty : address ≠ ""
  /-- It has no slash, at which the transport begins. -/
  no_slash : '/' ∉ address.toList
  /-- It does not begin with a blank. -/
  no_blank : ∀ c ∈ address.toList.head?, isBlank c = false
  /-- It does not begin with a bracket. -/
  no_first_bracket : ∀ c ∈ address.toList.head?, ¬IsBracket c
  /-- It does not end with a bracket. -/
  no_last_bracket : ∀ c ∈ address.toList.getLast?, ¬IsBracket c

/-- An address is written as it is or in brackets. -/
def WrittenAs (address : String) (written : String) : Prop :=
  written = address ∨ written = "[" ++ (address ++ "]")

/-! ## Parts of a text -/

/-- An address in brackets begins with one and ends with the other. -/
theorem toList_bracketed (address : String) :
    ("[" ++ (address ++ "]")).toList = '[' :: (address.toList ++ [']']) := by
  rw [String.toList_append, String.toList_append]
  rfl

/-- A text that is not empty is kept where empty ones are left out. -/
theorem filter_some_of_ne_nil {s : List Char} (h : s ≠ []) :
    (some s).filter (fun t => !t.isEmpty) = some s := by
  refine Option.filter_eq_some_iff.mpr ⟨rfl, ?_⟩
  rw [Bool.not_eq_true', List.isEmpty_eq_false_iff]
  exact h

/-- Brackets are taken off an address where there are some, and nothing else is. -/
theorem trimBrackets_of_writtenAs {address written : String} (h : PlainAddress address)
    (hwritten : WrittenAs address written) : trimBrackets written.toList = address.toList := by
  have hfirst : ∀ c ∈ address.toList.head?, (c == '[' || c == ']') = false := fun c hc =>
    Bool.eq_false_iff.mpr fun hbracket => h.no_first_bracket c hc (by simpa [IsBracket] using hbracket)
  have hlast : ∀ c ∈ address.toList.reverse.head?, (c == '[' || c == ']') = false := fun c hc =>
    Bool.eq_false_iff.mpr fun hbracket =>
      h.no_last_bracket c (by rwa [← List.head?_reverse]) (by simpa [IsBracket] using hbracket)
  -- What is left at the front is the address, whether or not a bracket stands after it.
  have hback : (address.toList.reverse.dropWhile fun c => c == '[' || c == ']').reverse =
      address.toList := by
    rw [dropWhile_eq_self hlast, List.reverse_reverse]
  unfold trimBrackets
  dsimp only
  rcases hwritten with rfl | rfl
  · rw [dropWhile_eq_self hfirst, hback]
  · have hfront : ∀ c ∈ (address.toList ++ [']']).head?, (c == '[' || c == ']') = false := by
      have hne : address.toList ≠ [] := mt String.toList_eq_nil_iff.mp h.ne_empty
      rw [List.head?_append_of_ne_nil _ hne]
      exact hfirst
    rw [toList_bracketed, List.dropWhile_cons_of_pos (by decide), dropWhile_eq_self hfront,
      List.reverse_append, List.reverse_singleton, List.singleton_append,
      List.dropWhile_cons_of_pos (by decide), hback]

/-- What stands after the first slash is the transport. -/
theorem splitProtocol_slash {s : List Char} (h : '/' ∉ s) (protocol : List Char) :
    splitProtocol (s ++ '/' :: protocol) = (s, String.ofList protocol) := by
  unfold splitProtocol
  rw [splitOnce_append h]

/-- Without a slash the transport is the usual one. -/
theorem splitProtocol_of_notMem {s : List Char} (h : '/' ∉ s) :
    splitProtocol s = (s, defaultProtocol) := by
  unfold splitProtocol
  rw [splitOnce_of_notMem h]

/-- Without a colon there is only the port inside the container. -/
theorem splitAddress_of_notMem {container : List Char} (h : ':' ∉ container) :
    splitAddress container = (container, none, none) := by
  unfold splitAddress
  rw [splitOnceEnd_of_notMem h]

/-- What stands before the only colon is the port outside the container. -/
theorem splitAddress_pair {host container : List Char} (hhost : ':' ∉ host)
    (hcontainer : ':' ∉ container) :
    splitAddress (host ++ ':' :: container) = (container, some host, none) := by
  unfold splitAddress
  rw [splitOnceEnd_append hcontainer]
  dsimp only
  rw [splitOnceEnd_of_notMem hhost]

/-- What stands before the last colon but one is the address, with colons of its own or without. -/
theorem splitAddress_triple (address : List Char) {host container : List Char}
    (hhost : ':' ∉ host) (hcontainer : ':' ∉ container) :
    splitAddress ((address ++ ':' :: host) ++ ':' :: container) =
      (container, some host, some address) := by
  unfold splitAddress
  rw [splitOnceEnd_append hcontainer]
  dsimp only
  rw [splitOnceEnd_append hhost]

/-! ## The short form -/

/-- The short form is taken apart into the port inside the container, the port outside and the
address as it is written. An empty port outside is none. -/
theorem splitAddress_frontForm (written : Option String) (host : Option Nat) (container : Nat) :
    ∃ outside, splitAddress ((frontForm written host).toList ++ Nat.toDigits 10 container) =
        (Nat.toDigits 10 container, outside, written.map String.toList) ∧
      (outside.map trimChars).filter (fun h => !h.isEmpty) = host.map (Nat.toDigits 10) := by
  have hcolon : ∀ n : Nat, ':' ∉ Nat.toDigits 10 n := notMem_toDigits (by decide)
  have hdigits : ∀ n : Nat, ((some (Nat.toDigits 10 n)).map trimChars).filter
      (fun h => !h.isEmpty) = some (Nat.toDigits 10 n) := by
    intro n
    rw [Option.map_some, trimChars_eq_self fun c hc => isBlank_of_mem_toDigits hc]
    exact filter_some_of_ne_nil Nat.toDigits_ne_nil
  cases written with
  | none =>
    cases host with
    | none => exact ⟨none, splitAddress_of_notMem (hcolon container), rfl⟩
    | some host =>
      refine ⟨some (Nat.toDigits 10 host), ?_, hdigits host⟩
      have htext : (frontForm none (some host)).toList ++ Nat.toDigits 10 container =
          Nat.toDigits 10 host ++ ':' :: Nat.toDigits 10 container := by
        rw [frontForm, String.toList_append, toList_toString, List.append_assoc]
        rfl
      rw [htext]
      exact splitAddress_pair (hcolon host) (hcolon container)
  | some address =>
    cases host with
    | none =>
      refine ⟨some [], ?_, rfl⟩
      have htext : (frontForm (some address) none).toList ++ Nat.toDigits 10 container =
          (address.toList ++ ':' :: []) ++ ':' :: Nat.toDigits 10 container := by
        rw [frontForm, String.toList_append, List.append_assoc, List.append_assoc]
        rfl
      rw [htext]
      exact splitAddress_triple _ List.not_mem_nil (hcolon container)
    | some host =>
      refine ⟨some (Nat.toDigits 10 host), ?_, hdigits host⟩
      have htext : (frontForm (some address) (some host)).toList ++ Nat.toDigits 10 container =
          (address.toList ++ ':' :: Nat.toDigits 10 host) ++ ':' :: Nat.toDigits 10 container := by
        rw [frontForm, String.toList_append, String.toList_append, String.toList_append,
          toList_toString]
        simp only [List.append_assoc, List.cons_append]
        rfl
      rw [htext]
      exact splitAddress_triple _ (hcolon host) (hcolon container)

/-- The host part of the short form is read as the port outside the container. -/
theorem hostPorts_toDigits {host : Option Nat} (h : ∀ p ∈ host, Port.Valid p) (container : Nat) :
    hostPorts (host.map (Nat.toDigits 10)) [container] = [host] := by
  unfold hostPorts
  cases host with
  | none => rfl
  | some p =>
    rw [Option.map_some, Option.bind_some, Port.readRange?_toDigits (h p rfl)]
    rfl

/-- An address as it is written is not empty, has no slash and does not begin with a blank. -/
theorem PlainAddress.written {address written : String} (h : PlainAddress address)
    (hwritten : WrittenAs address written) : written.toList ≠ [] ∧ '/' ∉ written.toList ∧
      ∀ c ∈ written.toList.head?, isBlank c = false := by
  rcases hwritten with rfl | rfl
  · exact ⟨mt String.toList_eq_nil_iff.mp h.ne_empty, h.no_slash, h.no_blank⟩
  · rw [toList_bracketed]
    refine ⟨List.cons_ne_nil _ _, fun hmem => ?_, fun c hc => ?_⟩
    · rcases List.mem_cons.mp hmem with hslash | hmem
      · exact absurd hslash (by decide)
      · rcases List.mem_append.mp hmem with hmem | hmem
        · exact h.no_slash hmem
        · exact absurd (List.mem_singleton.mp hmem) (by decide)
    · obtain rfl := Option.mem_some_iff.mp hc
      decide

/-- What follows an address in front of the ports has no slash. -/
theorem frontForm_some_toList (written : String) (host : Option Nat) : ∃ rest,
    (frontForm (some written) host).toList = written.toList ++ rest ∧ '/' ∉ rest := by
  cases host with
  | none =>
    refine ⟨[':', ':'], ?_, by decide⟩
    rw [frontForm, String.toList_append]
    rfl
  | some host =>
    refine ⟨':' :: (Nat.toDigits 10 host ++ [':']), ?_, fun hmem => ?_⟩
    · rw [frontForm, String.toList_append, String.toList_append, String.toList_append,
        toList_toString]
      rfl
    · rcases List.mem_cons.mp hmem with hslash | hmem
      · exact absurd hslash (by decide)
      · rcases List.mem_append.mp hmem with hmem | hmem
        · exact notMem_toDigits (by decide) host hmem
        · exact absurd (List.mem_singleton.mp hmem) (by decide)

/-- Before the ports without an address there are digits and colons only. -/
theorem frontForm_none_toList {host : Option Nat} {c : Char}
    (h : c ∈ (frontForm none host).toList) : c.isDigit = true ∨ c = ':' := by
  cases host with
  | none => exact absurd h List.not_mem_nil
  | some host =>
    rw [frontForm, String.toList_append, toList_toString] at h
    rcases List.mem_append.mp h with hmem | hmem
    · exact .inl (Nat.isDigit_of_mem_toDigits (by decide) (by decide) hmem)
    · exact .inr (List.mem_singleton.mp hmem)

/-- Before its transport the short form has no slash, and it does not begin with a blank. -/
theorem frontForm_plain {written : Option String}
    (h : ∀ w ∈ written, w.toList ≠ [] ∧ '/' ∉ w.toList ∧ ∀ c ∈ w.toList.head?, isBlank c = false)
    (host : Option Nat) (container : Nat) :
    '/' ∉ (frontForm written host).toList ++ Nat.toDigits 10 container ∧
      ∀ c ∈ ((frontForm written host).toList ++ Nat.toDigits 10 container).head?,
        isBlank c = false := by
  cases written with
  | none =>
    have hchars : ∀ c ∈ (frontForm none host).toList ++ Nat.toDigits 10 container,
        c.isDigit = true ∨ c = ':' := by
      intro c hc
      rcases List.mem_append.mp hc with hmem | hmem
      · exact frontForm_none_toList hmem
      · exact .inl (Nat.isDigit_of_mem_toDigits (by decide) (by decide) hmem)
    refine ⟨fun hmem => ?_, fun c hc => ?_⟩
    · rcases hchars '/' hmem with hdigit | hcolon
      · exact absurd hdigit (by decide)
      · exact absurd hcolon (by decide)
    · rcases hchars c (List.mem_of_mem_head? hc) with hdigit | rfl
      · exact isBlank_of_isDigit hdigit
      · decide
  | some w =>
    obtain ⟨hne, hslash, hblank⟩ := h w rfl
    obtain ⟨rest, htext, hrest⟩ := frontForm_some_toList w host
    rw [htext, List.append_assoc]
    refine ⟨fun hmem => ?_, ?_⟩
    · rcases List.mem_append.mp hmem with hmem | hmem
      · exact hslash hmem
      · rcases List.mem_append.mp hmem with hmem | hmem
        · exact hrest hmem
        · exact notMem_toDigits (by decide) container hmem
    · rw [List.head?_append_of_ne_nil _ hne]
      exact hblank

/-- The short form is the text before the slash, the slash and the transport. -/
theorem toList_shortForm (written : Option String) (host : Option Nat) (container : Nat)
    (protocol : String) : (shortForm written host container protocol).toList =
      ((frontForm written host).toList ++ Nat.toDigits 10 container) ++ '/' :: protocol.toList := by
  unfold shortForm
  rw [String.toList_append, String.toList_append, String.toList_append, toList_toString,
    List.append_assoc]
  rfl

/-- The short form is read as the port that it was written for. Of the transport the blanks at its
end are lost. -/
theorem readShort_shortForm {address written : Option String}
    (haddress : ∀ a ∈ address, PlainAddress a)
    (hwritten : Option.Rel WrittenAs address written) {host : Option Nat}
    (hhost : ∀ p ∈ host, Port.Valid p) {container : Nat} (hcontainer : Port.Valid container)
    (protocol : String) : readShort (shortForm written host container protocol).toList =
      [⟨container, host, String.ofList (trimEndChars protocol.toList), address⟩] := by
  have hplain : ∀ w ∈ written,
      w.toList ≠ [] ∧ '/' ∉ w.toList ∧ ∀ c ∈ w.toList.head?, isBlank c = false := by
    intro w hw
    cases hwritten with
    | some h =>
      obtain rfl := Option.mem_some_iff.mp hw
      exact (haddress _ rfl).written h
    | none => cases hw
  obtain ⟨hslash, hblank⟩ := frontForm_plain hplain host container
  -- Only the transport can end with a blank.
  have htrim : trimChars (shortForm written host container protocol).toList =
      ((frontForm written host).toList ++ Nat.toDigits 10 container) ++
        '/' :: trimEndChars protocol.toList := by
    have hne : (frontForm written host).toList ++ Nat.toDigits 10 container ≠ [] :=
      List.append_ne_nil_of_right_ne_nil _ Nat.toDigits_ne_nil
    unfold trimChars
    rw [toList_shortForm, trimStartChars_eq_self, trimEndChars_append_cons _ (by decide)]
    rw [List.head?_append_of_ne_nil _ hne]
    exact hblank
  obtain ⟨outside, hparts, houtside⟩ := splitAddress_frontForm written host container
  have hbrackets : (((written.map String.toList).map trimBrackets).filter
      (fun a => !a.isEmpty)).map String.ofList = address := by
    cases hwritten with
    | none => rfl
    | @some a w h =>
      have ha := haddress a rfl
      have hne : a.toList ≠ [] := mt String.toList_eq_nil_iff.mp ha.ne_empty
      rw [Option.map_some, Option.map_some, trimBrackets_of_writtenAs ha h,
        filter_some_of_ne_nil hne, Option.map_some, String.ofList_toList]
  unfold readShort
  rw [htrim, splitProtocol_slash hslash]
  dsimp only
  rw [hparts, Port.readRange?_toDigits hcontainer]
  dsimp only
  rw [houtside, hostPorts_toDigits hhost, List.zipWith_cons_cons, List.zipWith_nil_left, hbrackets]

/-! ## The long form -/

/-- The long form is read as the port that it was written for. -/
theorem readLong_longForm (address : Option String) {host : Option Nat}
    (hhost : ∀ p ∈ host, Port.Valid p) {container : Nat} (hcontainer : Port.Valid container)
    (protocol : String) :
    readLong (longForm address host container protocol) = [⟨container, host, protocol, address⟩] := by
  have htarget : (longForm address host container protocol).get? "target" =
      some (.number (.whole container)) := rfl
  have hpublished : (longForm address host container protocol).get? "published" =
      host.map fun h : Nat => Value.number (.whole h) := by
    cases host <;> cases address <;> rfl
  have hprotocol : (longForm address host container protocol).get? "protocol" =
      some (.string protocol) := by
    cases host <;> rfl
  have haddress : (longForm address host container protocol).get? "host_ip" =
      address.map Value.string := by
    cases host <;> cases address <;> rfl
  have houtside : (host.map fun h : Nat => Value.number (.whole h)).bind Port.ofValue? = host := by
    cases host with
    | none => rfl
    | some p => exact Port.ofNumber?_of_valid (hhost p rfl)
  have hplace : (address.map Value.string).bind Value.text? = address := by
    cases address <;> rfl
  have hinside : Port.ofValue? (.number (.whole container)) = some container :=
    Port.ofNumber?_of_valid hcontainer
  unfold readLong
  rw [htarget, hpublished, hprotocol, haddress, Option.bind_some, hinside, houtside, hplace]
  rfl

/-! ## What is declared -/

/-- The declarations that an item of `ports` makes. -/
def publishedBy (file : File) (service : String) (image : Option String) (entry : Value) :
    List Declaration :=
  (readPublished entry).map (declare file service image false)

/-- The declarations that an item of `expose` makes. -/
def exposedBy (file : File) (service : String) (image : Option String) (entry : Value) :
    List Declaration :=
  (readExposed entry).map (declare file service image true)

variable (file : File) (service : String) (image : Option String)

/-- A service declares what the items of its `ports` do, and then what those of its `expose` do. -/
theorem ofService_eq (v : Value) : ofService file service v =
    (((v.get? "ports").bind Value.items?).getD []).flatMap
        (publishedBy file service ((v.get? "image").bind Value.text?)) ++
      (((v.get? "expose").bind Value.items?).getD []).flatMap
        (exposedBy file service ((v.get? "image").bind Value.text?)) :=
  rfl

/-- A transport is named without the blanks at its end. -/
theorem transportName_trimEndChars (protocol : String) :
    transportName (String.ofList (trimEndChars protocol.toList)) = transportName protocol := by
  have htrim : trim (String.ofList (trimEndChars protocol.toList)) = trim protocol := by
    unfold trim
    rw [String.toList_ofList, trimChars_trimEndChars]
  unfold transportName
  rw [htrim]

/-- The blanks at the end of a transport make no difference to what is declared. -/
theorem declare_trimEndChars (exposed : Bool) (container : Nat) (host : Option Nat)
    (protocol : String) (address : Option String) :
    declare file service image exposed
        ⟨container, host, String.ofList (trimEndChars protocol.toList), address⟩ =
      declare file service image exposed ⟨container, host, protocol, address⟩ := by
  unfold declare Declaration.withProtocol
  dsimp only
  rw [transportName_trimEndChars]

/-! ## Numbers and ranges -/

/-- A text of ports with neither slash nor blank is all ports. -/
theorem splitProtocol_trimChars {s : List Char} (hblank : ∀ c ∈ s, isBlank c = false)
    (hslash : '/' ∉ s) : splitProtocol (trimChars s) = (s, defaultProtocol) := by
  rw [trimChars_eq_self hblank, splitProtocol_of_notMem hslash]

/-- A text in which ports are paired: digits and hyphens only. -/
def IsPorts (s : List Char) : Prop :=
  s ≠ [] ∧ ∀ c ∈ s, c.isDigit = true ∨ c = '-'

/-- A text of ports has no other character than digits and hyphens. -/
theorem IsPorts.notMem {s : List Char} (h : IsPorts s) {c : Char} (hdigit : c.isDigit = false)
    (hhyphen : c ≠ '-') : c ∉ s := by
  intro hmem
  rcases h.2 c hmem with hc | hc
  · exact Bool.false_ne_true (hdigit.symm.trans hc)
  · exact hhyphen hc

/-- A text of ports has no blanks. -/
theorem IsPorts.isBlank_of_mem {s : List Char} (h : IsPorts s) {c : Char} (hc : c ∈ s) :
    isBlank c = false := by
  rcases h.2 c hc with hdigit | rfl
  · exact isBlank_of_isDigit hdigit
  · decide

/-- The digits of a number are a text of ports. -/
theorem isPorts_toDigits (n : Nat) : IsPorts (Nat.toDigits 10 n) :=
  ⟨Nat.toDigits_ne_nil, fun _ hc => .inl (Nat.isDigit_of_mem_toDigits (by decide) (by decide) hc)⟩

/-- Two texts of ports with a hyphen between them are one. -/
theorem IsPorts.append {s t : List Char} (hs : IsPorts s) (ht : IsPorts t) :
    IsPorts (s ++ '-' :: t) := by
  refine ⟨List.append_ne_nil_of_right_ne_nil _ (List.cons_ne_nil _ _), fun c hc => ?_⟩
  rcases List.mem_append.mp hc with hmem | hmem
  · exact hs.2 c hmem
  · rcases List.mem_cons.mp hmem with hhyphen | hmem
    · exact .inr hhyphen
    · exact ht.2 c hmem

/-- The text of a whole number is a text of ports, its sign a hyphen. -/
theorem isPorts_toString (n : Int) : IsPorts (toString n).toList := by
  rw [Port.toList_toString_int]
  split_ifs
  · exact isPorts_toDigits _
  · refine ⟨List.cons_ne_nil _ _, fun c hc => ?_⟩
    rcases List.mem_cons.mp hc with hhyphen | hmem
    · exact .inr hhyphen
    · exact (isPorts_toDigits _).2 c hmem

/-- A whole number is read as the port that it is, if it is one. -/
theorem readPublished_number (n : Int) : readPublished (.number (.whole n)) =
    (Port.ofNumber? (.whole n)).toList.map (Published.unpublished defaultProtocol) :=
  rfl

/-- The text of a whole number is read as the number is. -/
theorem readPublished_toString (n : Int) :
    readPublished (.string (toString n)) = readPublished (.number (.whole n)) := by
  have hports := isPorts_toString n
  have hslash : '/' ∉ (toString n).toList := hports.notMem (by decide) (by decide)
  have hcolon : ':' ∉ (toString n).toList := hports.notMem (by decide) (by decide)
  -- Nothing but the port inside the container is left of a text without slash and colon.
  rw [readPublished_number]
  unfold readPublished
  dsimp only
  unfold readShort
  rw [splitProtocol_trimChars (fun _ => hports.isBlank_of_mem) hslash]
  dsimp only
  rw [splitAddress_of_notMem hcolon, Port.readRange?_toString]
  cases Port.ofNumber? (.whole n) with
  | none => rfl
  | some port => rfl

/-- The text of a whole number is read as the number is, where ports are exposed. -/
theorem readExposed_toString (n : Int) :
    readExposed (.string (toString n)) = readExposed (.number (.whole n)) := by
  have hslash : '/' ∉ (toString n).toList := (isPorts_toString n).notMem (by decide) (by decide)
  unfold readExposed
  dsimp only
  rw [splitProtocol_of_notMem hslash]
  dsimp only
  rw [Port.readRange?_toString]
  cases Port.ofNumber? (.whole n) with
  | none => rfl
  | some port => rfl

/-- Ports outside and ports inside the container with a colon between them are read as their
pairs. -/
theorem readShort_pair {outside inside : List Char} (houtside : IsPorts outside)
    (hinside : IsPorts inside) {hosts containers : List Nat}
    (hhosts : Port.readRange? outside = some hosts)
    (hcontainers : Port.readRange? inside = some containers)
    (hlength : hosts.length = containers.length) :
    readShort (outside ++ ':' :: inside) = List.zipWith
      (fun container host => ⟨container, some host, defaultProtocol, none⟩) containers hosts := by
  have hblank : ∀ c ∈ outside ++ ':' :: inside, isBlank c = false := by
    intro c hc
    rcases List.mem_append.mp hc with hmem | hmem
    · exact houtside.isBlank_of_mem hmem
    · rcases List.mem_cons.mp hmem with rfl | hmem
      · decide
      · exact hinside.isBlank_of_mem hmem
  have hslash : '/' ∉ outside ++ ':' :: inside := by
    intro hmem
    rcases List.mem_append.mp hmem with hmem | hmem
    · exact houtside.notMem (by decide) (by decide) hmem
    · rcases List.mem_cons.mp hmem with hcolon | hmem
      · exact absurd hcolon (by decide)
      · exact hinside.notMem (by decide) (by decide) hmem
  have hparts : splitAddress (outside ++ ':' :: inside) = (inside, some outside, none) :=
    splitAddress_pair (houtside.notMem (by decide) (by decide))
      (hinside.notMem (by decide) (by decide))
  have hkept : ((some outside).map trimChars).filter (fun h => !h.isEmpty) = some outside := by
    rw [Option.map_some, trimChars_eq_self fun _ => houtside.isBlank_of_mem]
    exact filter_some_of_ne_nil houtside.1
  have hports : hostPorts (some outside) containers = hosts.map some := by
    unfold hostPorts
    rw [Option.bind_some, hhosts]
    exact if_pos hlength
  unfold readShort
  rw [splitProtocol_trimChars hblank hslash]
  dsimp only
  rw [hparts, hcontainers]
  dsimp only
  rw [hkept, hports, List.zipWith_map_right]
  rfl

/-- The text of a port outside and one inside the container is read as the two. -/
theorem readPublished_pairForm {host container : Nat} (hhost : Port.Valid host)
    (hcontainer : Port.Valid container) : readPublished (.string (pairForm host container)) =
      [⟨container, some host, defaultProtocol, none⟩] := by
  have htext : (pairForm host container).toList =
      Nat.toDigits 10 host ++ ':' :: Nat.toDigits 10 container := by
    unfold pairForm
    rw [String.toList_append, String.toList_append, toList_toString, toList_toString]
    rfl
  unfold readPublished
  dsimp only
  rw [htext, readShort_pair (isPorts_toDigits host) (isPorts_toDigits container)
    (Port.readRange?_toDigits hhost) (Port.readRange?_toDigits hcontainer) rfl]
  rfl

/-- Two ranges that cover equally many ports are read as their pairs, one after the other. -/
theorem readPublished_rangeForm {firstHost lastHost firstContainer lastContainer : Nat}
    (hfirstHost : Port.Valid firstHost) (hlastHost : Port.Valid lastHost)
    (hfirst : Port.Valid firstContainer) (hlast : Port.Valid lastContainer)
    (hleHost : firstHost ≤ lastHost) (hle : firstContainer ≤ lastContainer)
    (hequal : lastHost - firstHost = lastContainer - firstContainer)
    (hrange : lastHost - firstHost < Port.maxRange) :
    readPublished (.string (rangeForm firstHost lastHost firstContainer lastContainer)) =
      (List.range (lastHost - firstHost + 1)).flatMap fun i =>
        readPublished (.string (pairForm (firstHost + i) (firstContainer + i))) := by
  have htext : (rangeForm firstHost lastHost firstContainer lastContainer).toList =
      (Nat.toDigits 10 firstHost ++ '-' :: Nat.toDigits 10 lastHost) ++
        ':' :: (Nat.toDigits 10 firstContainer ++ '-' :: Nat.toDigits 10 lastContainer) := by
    unfold rangeForm
    simp only [String.toList_append, toList_toString, List.append_assoc]
    rfl
  have hports : ∀ m n : Nat, IsPorts (Nat.toDigits 10 m ++ '-' :: Nat.toDigits 10 n) :=
    fun m n => (isPorts_toDigits m).append (isPorts_toDigits n)
  have hhosts := Port.readRange?_hyphen hfirstHost hlastHost hleHost hrange
  have hcontainers := Port.readRange?_hyphen hfirst hlast hle (hequal ▸ hrange)
  have hpair : ∀ i ∈ List.range (lastHost - firstHost + 1),
      readPublished (.string (pairForm (firstHost + i) (firstContainer + i))) =
        [⟨firstContainer + i, some (firstHost + i), defaultProtocol, none⟩] := by
    intro i hi
    -- A pair lies within its ranges, so that it is of ports.
    have hlt : i < lastHost - firstHost + 1 := List.mem_range.mp hi
    have hhost : Port.Valid (firstHost + i) :=
      ⟨hfirstHost.1.trans (Nat.le_add_right _ _), le_trans (by omega) hlastHost.2⟩
    have hcontainer : Port.Valid (firstContainer + i) :=
      ⟨hfirst.1.trans (Nat.le_add_right _ _), le_trans (by omega) hlast.2⟩
    exact readPublished_pairForm hhost hcontainer
  have hread : readPublished (.string (rangeForm firstHost lastHost firstContainer lastContainer)) =
      List.zipWith (fun container host => ⟨container, some host, defaultProtocol, none⟩)
        (Port.consecutive firstContainer (lastHost - firstHost + 1))
        (Port.consecutive firstHost (lastHost - firstHost + 1)) := by
    unfold readPublished
    dsimp only
    rw [htext, readShort_pair (hports _ _) (hports _ _) hhosts hcontainers
      (by simp [Port.consecutive, hequal]), ← hequal]
  rw [hread, List.flatMap_congr hpair, ← List.map_eq_flatMap]
  unfold Port.consecutive
  rw [List.zipWith_map, List.zipWith_self]

/-! ## All forms -/

/-- A port declares the same in the short form and in the long one: itself, and nothing else. A whole
number declares the same as its text, published or not. Two ranges that cover equally many ports
declare what the pairs of their ports do, in their order. -/
theorem forms_agree :
    (∀ {address written : Option String}, (∀ a ∈ address, PlainAddress a) →
      Option.Rel WrittenAs address written → ∀ {host : Option Nat}, (∀ p ∈ host, Port.Valid p) →
      ∀ {container : Nat}, Port.Valid container → ∀ protocol : String,
        publishedBy file service image (.string (shortForm written host container protocol)) =
            [declare file service image false ⟨container, host, protocol, address⟩] ∧
          publishedBy file service image (longForm address host container protocol) =
            [declare file service image false ⟨container, host, protocol, address⟩]) ∧
      (∀ n : Int,
        publishedBy file service image (.number (.whole n)) =
            publishedBy file service image (.string (toString n)) ∧
          exposedBy file service image (.number (.whole n)) =
            exposedBy file service image (.string (toString n))) ∧
      ∀ {firstHost lastHost firstContainer lastContainer : Nat}, Port.Valid firstHost →
        Port.Valid lastHost → Port.Valid firstContainer → Port.Valid lastContainer →
        firstHost ≤ lastHost → firstContainer ≤ lastContainer →
        lastHost - firstHost = lastContainer - firstContainer →
        lastHost - firstHost < Port.maxRange →
        publishedBy file service image
            (.string (rangeForm firstHost lastHost firstContainer lastContainer)) =
          (List.range (lastHost - firstHost + 1)).flatMap fun i =>
            publishedBy file service image
              (.string (pairForm (firstHost + i) (firstContainer + i))) := by
  refine ⟨?_, fun n => ?_, ?_⟩
  · intro address written haddress hwritten host hhost container hcontainer protocol
    constructor
    · unfold publishedBy readPublished
      dsimp only
      rw [readShort_shortForm haddress hwritten hhost hcontainer, List.map_singleton,
        declare_trimEndChars]
    · have hlong : readPublished (longForm address host container protocol) =
          [⟨container, host, protocol, address⟩] :=
        readLong_longForm address hhost hcontainer protocol
      unfold publishedBy
      rw [hlong, List.map_singleton]
  · unfold publishedBy exposedBy
    rw [readPublished_toString, readExposed_toString]
    exact ⟨rfl, rfl⟩
  · intro firstHost lastHost firstContainer lastContainer hfirstHost hlastHost hfirst hlast hleHost
      hle hequal hrange
    unfold publishedBy
    rw [readPublished_rangeForm hfirstHost hlastHost hfirst hlast hleHost hle hequal hrange,
      List.map_flatMap]

/-- Names are served at an address with colons of its own, and at three more ports. -/
theorem forms_agree_dns :
    let file : File := ⟨⟨"compose.yaml"⟩, "compose.yaml", "dns"⟩
    let declared := declare file "dns" none false ⟨53, some 5353, " udp ", some "fe80::1"⟩
    PlainAddress "fe80::1" ∧ WrittenAs "fe80::1" "[fe80::1]" ∧ Port.Valid 5353 ∧ Port.Valid 53 ∧
      shortForm (some "[fe80::1]") (some 5353) 53 " udp " = "[fe80::1]:5353:53/ udp " ∧
      publishedBy file "dns" none (.string "[fe80::1]:5353:53/ udp ") = [declared] ∧
      publishedBy file "dns" none (longForm (some "fe80::1") (some 5353) 53 " udp ") = [declared] ∧
      exposedBy file "dns" none (.number (.whole 853)) =
        exposedBy file "dns" none (.string "853") ∧
      rangeForm 7000 7002 8000 8002 = "7000-7002:8000-8002" ∧
      publishedBy file "dns" none (.string "7000-7002:8000-8002") =
        [0, 1, 2].flatMap fun i =>
          publishedBy file "dns" none (.string (pairForm (7000 + i) (8000 + i))) := by
  intro file declared
  have hfirst : ∀ c ∈ "fe80::1".toList.head?, c = 'f' := fun c hc => (Option.some.inj hc).symm
  have hlast : ∀ c ∈ "fe80::1".toList.getLast?, c = '1' := fun c hc => (Option.some.inj hc).symm
  have haddress : PlainAddress "fe80::1" := by
    refine ⟨by decide, by decide, fun c hc => ?_, fun c hc => ?_, fun c hc => ?_⟩
    · rw [hfirst c hc]
      decide
    · rw [hfirst c hc]
      unfold IsBracket
      decide
    · rw [hlast c hc]
      unfold IsBracket
      decide
  have hwritten : WrittenAs "fe80::1" "[fe80::1]" := .inr (by decide)
  have hvalid : ∀ p, 1 ≤ p ∧ p ≤ 8002 → Port.Valid p := fun p h => ⟨h.1, h.2.trans (by decide)⟩
  have hshortForm : shortForm (some "[fe80::1]") (some 5353) 53 " udp " =
      "[fe80::1]:5353:53/ udp " := by decide +kernel
  have hnumber : toString (853 : Int) = "853" := by decide +kernel
  have hrangeForm : rangeForm 7000 7002 8000 8002 = "7000-7002:8000-8002" := by decide +kernel
  obtain ⟨hforms, hnumbers, hranges⟩ := forms_agree file "dns" none
  have haddresses : ∀ a ∈ some "fe80::1", PlainAddress a :=
    fun a ha => Option.some.inj ha ▸ haddress
  have hhosts : ∀ p ∈ some 5353, Port.Valid p :=
    fun p hp => Option.some.inj hp ▸ hvalid 5353 (by decide)
  obtain ⟨hshort, hlong⟩ :=
    hforms haddresses (.some hwritten) hhosts (hvalid 53 (by decide)) " udp "
  have hexposed := (hnumbers 853).2
  have hrange := hranges (hvalid 7000 (by decide)) (hvalid 7002 (by decide))
    (hvalid 8000 (by decide)) (hvalid 8002 (by decide)) (by decide) (by decide) (by decide)
    (by decide)
  rw [hshortForm] at hshort
  rw [hnumber] at hexposed
  rw [hrangeForm] at hrange
  exact ⟨haddress, hwritten, hvalid _ (by decide), hvalid _ (by decide), hshortForm, hshort, hlong,
    hexposed, hrangeForm, hrange⟩

end PortSurvey.Artifact.Compose
