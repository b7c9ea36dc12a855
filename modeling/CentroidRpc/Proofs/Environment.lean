import CentroidRpc.Config
import Mathlib.Data.List.TakeWhile

/-!
# What an environment may say

A text without the blanks at its ends is told by what it is (`Trims`), and so is the decimal form of
a port (`Decimal`), whatever the zeros before it. The environment gives a configuration exactly if
its port is unset or has such a form (`Config.ofEnvironment_exact`), and a configuration that it
gives can be written back to it.
-/

namespace CentroidRpc

/-- What there is between the blanks at the ends of a text, with no blank at an end of its own. -/
structure Trims (cs core : List Char) : Prop where
  around : ∃ before after, (∀ c ∈ before, CharSet.blank.contains c = true) ∧
    (∀ c ∈ after, CharSet.blank.contains c = true) ∧ cs = before ++ (core ++ after)
  first : ∀ c ∈ core.head?, CharSet.blank.contains c = false
  last : ∀ c ∈ core.getLast?, CharSet.blank.contains c = false

section DropWhile

variable {α : Type} {p : α → Bool}

private theorem dropWhile_append_of_head? {before rest : List α}
    (hbefore : ∀ x ∈ before, p x = true)
    (hrest : ∀ x ∈ rest.head?, p x = false) : (before ++ rest).dropWhile p = rest := by
  rw [List.dropWhile_append_of_pos hbefore]
  cases rest with
  | nil => rfl
  | cons x rest => simp [hrest x rfl]

private theorem head?_dropWhile {l : List α} {x : α} (h : x ∈ (l.dropWhile p).head?) :
    p x = false := by
  have hhead := List.head?_dropWhile_not p l
  rw [Option.mem_def.1 h] at hhead
  exact hhead

end DropWhile

namespace Trims

variable {cs core : List Char}

/-- A text is trimmed to what there is between its blanks. -/
theorem trimBlanks_eq (h : Trims cs core) : trimBlanks cs = core := by
  obtain ⟨before, after, hbefore, hafter, rfl⟩ := h.around
  have hlast : ∀ c ∈ core.reverse.head?, CharSet.blank.contains c = false := by
    simpa only [List.head?_reverse] using h.last
  have hafter' : ∀ c ∈ after.reverse, CharSet.blank.contains c = true := by simpa using hafter
  cases core with
  | nil =>
    have hall : ∀ c ∈ before ++ ([] ++ after), CharSet.blank.contains c = true := by
      simpa [or_imp, forall_and] using ⟨hbefore, hafter⟩
    rw [trimBlanks, List.dropWhile_eq_nil_iff.2 hall]
    rfl
  | cons c core =>
    have hfirst : ∀ x ∈ (c :: core ++ after).head?, CharSet.blank.contains x = false := h.first
    rw [trimBlanks, dropWhile_append_of_head? hbefore hfirst, List.reverse_append,
      dropWhile_append_of_head? hafter' hlast, List.reverse_reverse]

/-- Every text has something between its blanks, if only nothing. -/
theorem self (cs : List Char) : Trims cs (trimBlanks cs) := by
  have hsplit (l : List Char) :
      l = l.takeWhile CharSet.blank.contains ++ l.dropWhile CharSet.blank.contains :=
    List.takeWhile_append_dropWhile.symm
  have hrest : cs.dropWhile CharSet.blank.contains = trimBlanks cs ++
      ((cs.dropWhile CharSet.blank.contains).reverse.takeWhile CharSet.blank.contains).reverse := by
    rw [trimBlanks, ← List.reverse_append, ← hsplit, List.reverse_reverse]
  constructor
  · refine ⟨cs.takeWhile CharSet.blank.contains, _, fun c hc ↦ ?_, fun c hc ↦ ?_,
      (hsplit cs).trans (congrArg _ hrest)⟩
    · exact List.mem_takeWhile_imp hc
    · exact List.mem_takeWhile_imp (List.mem_reverse.1 hc)
  · intro c hc
    apply head?_dropWhile (l := cs)
    rw [hrest, List.head?_append, Option.mem_def.1 hc]
    rfl
  · intro c hc
    rw [trimBlanks, List.getLast?_reverse] at hc
    exact head?_dropWhile hc

private theorem of_ends (first : ∀ c ∈ cs.head?, CharSet.blank.contains c = false)
    (last : ∀ c ∈ cs.getLast?, CharSet.blank.contains c = false) : Trims cs cs :=
  ⟨⟨[], [], by simp, by simp, by simp⟩, first, last⟩

end Trims

/-- A row of decimal digits, at least one, and its value. -/
structure Digits (cs : List Char) (n : Nat) : Prop where
  ne_nil : cs ≠ []
  isDigit : ∀ c ∈ cs, c.isDigit = true
  value : Nat.ofDigitChars 10 cs 0 = n

/-- The ways to write a number as a row of digits: with a plus before them or not. Zeros may stand
before the number. -/
inductive Decimal : List Char → Nat → Prop where
  | plain {cs n} (h : Digits cs n) : Decimal cs n
  | plus {cs n} (h : Digits cs n) : Decimal ('+' :: cs) n

/-- Digits are read to the end, or there is something else between them. -/
theorem readDigits?_eq (n : Nat) (cs : List Char) :
    readDigits? n cs = if cs.all Char.isDigit then some (Nat.ofDigitChars 10 cs n) else none := by
  induction cs generalizing n with
  | nil => rfl
  | cons c cs ih =>
    rw [readDigits?, ih, Nat.ofDigitChars_cons, Nat.mul_comm 10 n, List.all_cons]
    cases c.isDigit with
    | false => rfl
    | true => rw [if_pos rfl, Bool.true_and]

private theorem portOf?_eq_some_iff {cs : List Char} {port : UInt16} :
    portOf? cs = some port ↔ Digits cs port.toNat := by
  constructor
  · intro h
    simp only [portOf?, readDigits?_eq] at h
    by_cases hempty : cs = []
    · simp [hempty] at h
    · by_cases hall : cs.all Char.isDigit = true
      · by_cases hbits : Nat.ofDigitChars 10 cs 0 < UInt16.size
        · simp only [List.isEmpty_iff, hempty, hall, hbits, if_true, if_false, Option.some.injEq]
            at h
          refine ⟨hempty, List.all_eq_true.1 hall, ?_⟩
          rw [← h, UInt16.toNat_ofNat_of_lt' hbits]
        · simp [hall, hbits] at h
      · simp [hall] at h
  · intro h
    have hread : readDigits? 0 cs = some port.toNat := by
      rw [readDigits?_eq, if_pos (List.all_eq_true.2 h.isDigit), h.value]
    simp [portOf?, h.ne_nil, hread, port.toNat_lt_size]

private theorem readPort?_cases (cs : List Char) :
    (∃ digits, cs = '+' :: digits ∧ readPort? cs = portOf? digits) ∨
      (∀ digits, cs ≠ '+' :: digits) ∧ readPort? cs = portOf? cs := by
  unfold readPort?
  split
  · next digits => exact .inl ⟨digits, rfl, rfl⟩
  · next hplus => exact .inr ⟨hplus, rfl⟩

/-- A port is read exactly from the decimal forms of a number of 16 bits. -/
theorem readPort?_eq_some_iff {cs : List Char} {port : UInt16} :
    readPort? cs = some port ↔ Decimal cs port.toNat := by
  rcases readPort?_cases cs with ⟨digits, rfl, hread⟩ | ⟨hplus, hread⟩
  · rw [hread, portOf?_eq_some_iff]
    refine ⟨.plus, fun h ↦ ?_⟩
    cases h with
    | plain h => exact absurd (h.isDigit '+' List.mem_cons_self) (by decide)
    | plus h => exact h
  · rw [hread, portOf?_eq_some_iff]
    refine ⟨.plain, fun h ↦ ?_⟩
    cases h with
    | plain h => exact h
    | plus h => exact absurd rfl (hplus _)

/-- A number is written as a row of digits. -/
theorem digits_toDigits (n : Nat) : Digits (Nat.toDigits 10 n) n :=
  ⟨Nat.toDigits_ne_nil, fun _ hc ↦ Nat.isDigit_of_mem_toDigits (by decide) (by decide) hc,
    Nat.ofDigitChars_ten_toDigits⟩

/-- A port is written as a row of digits. -/
theorem digits_toString (port : UInt16) : Digits (toString port).toList port.toNat := by
  have hchars : (toString port).toList = Nat.toDigits 10 port.toNat := Nat.toList_repr
  rw [hchars]
  exact digits_toDigits port.toNat

private theorem not_blank_of_isDigit {c : Char} (h : c.isDigit = true) :
    CharSet.blank.contains c = false := by
  simp only [Char.isDigit_iff_toNat, Char.reduceToNat] at h
  simp only [CharSet.contains, CharSet.blank, List.any_cons, List.any_nil, Bool.or_false,
    Bool.or_eq_false_iff, Bool.and_eq_false_imp, decide_eq_true_eq, decide_eq_false_iff_not, not_le]
  omega

/-- There are no blanks to be trimmed from digits. -/
theorem Digits.trims {cs : List Char} {n : Nat} (h : Digits cs n) : Trims cs cs := by
  apply Trims.of_ends
  · exact fun c hc ↦ not_blank_of_isDigit (h.isDigit c (List.mem_of_mem_head? hc))
  · exact fun c hc ↦ not_blank_of_isDigit (h.isDigit c (List.mem_of_mem_getLast? hc))

/-- What the value of the variable with the port may be, and the port that it gives. -/
inductive PortIn : Option String → UInt16 → Prop where
  /-- It is unset, and the port is the standard one. -/
  | unset : PortIn none 8097
  /-- It is a port in decimal form, with blanks around it or not. -/
  | written {value core port} (htrims : Trims value.toList core)
    (hdecimal : Decimal core port.toNat) : PortIn (some value) port

/-- The host that each value of the variable with the host gives. -/
inductive HostIn : Option String → String → Prop where
  /-- It is unset, and the host is this machine. -/
  | unset : HostIn none "localhost"
  /-- So it is if there are only blanks. -/
  | blank {value} (htrims : Trims value.toList []) : HostIn (some value) "localhost"
  /-- It is what stands between the blanks. -/
  | named {value host} (htrims : Trims value.toList host.toList) (hne : host ≠ "") :
    HostIn (some value) host

private theorem ConfigError.text_invalidPort (value : String) :
    (invalidPort value).text = "Invalid port '" ++ value ++ "' in RELEVANCED_PORT" := by
  have hvariable : "' in " ++ portVariable = "' in RELEVANCED_PORT" := by decide
  rw [← hvariable, ← String.append_assoc]
  rfl

namespace Config

private theorem hostIn_some (value : String) :
    hostIn (some value) = if trimmed value = "" then "localhost" else trimmed value := by
  unfold hostIn
  split
  · next h => cases h
  · next h => rw [if_pos (Option.some.inj h)]; rfl
  · next host hne h =>
    cases h
    rw [if_neg hne]

/-- A value gives the host that is read from it, and no other. -/
theorem hostIn_eq_iff {value : Option String} {host : String} :
    hostIn value = host ↔ HostIn value host := by
  cases value with
  | none =>
    constructor
    · rintro rfl
      exact .unset
    · rintro ⟨⟩
      rfl
  | some value =>
    have htrims : Trims value.toList (trimmed value).toList := by
      rw [trimmed, String.toList_ofList]
      exact .self value.toList
    rw [hostIn_some]
    constructor
    · rintro rfl
      split
      · next hblank =>
        rw [hblank] at htrims
        exact .blank htrims
      · next hne => exact .named htrims hne
    · intro h
      cases h with
      | blank h =>
        rw [trimmed, h.trimBlanks_eq]
        rfl
      | named h hne =>
        rw [trimmed, h.trimBlanks_eq, String.ofList_toList, if_neg hne]

/-- A host that was given is given again if it is named. -/
theorem hostIn_self {value : Option String} {host : String} (h : HostIn value host) :
    HostIn (some host) host := by
  have hstandard : HostIn (some "localhost") "localhost" := .named (.self _) (by decide)
  cases h with
  | unset | blank => exact hstandard
  | named htrims hne => exact .named (.of_ends htrims.first htrims.last) hne

private theorem portIn_toString (port : UInt16) : PortIn (some (toString port)) port :=
  .written (digits_toString port).trims (.plain (digits_toString port))

private theorem portIn_some_iff {value : String} {port : UInt16} :
    PortIn (some value) port ↔ readPort? (trimBlanks value.toList) = some port := by
  rw [readPort?_eq_some_iff]
  constructor
  · rintro ⟨⟩
    next core htrims hdecimal => rwa [htrims.trimBlanks_eq]
  · exact .written (.self value.toList)

/-- The environment gives what its host and its port give. -/
theorem ofEnvironment_eq_ok_iff {lookup : String → Option String} {c : Config} :
    ofEnvironment lookup = .ok c ↔ ∃ host port, HostIn (lookup hostVariable) host ∧
      PortIn (lookup portVariable) port ∧ c = forHost host port := by
  have hhost : HostIn (lookup hostVariable) (hostIn (lookup hostVariable)) := hostIn_eq_iff.1 rfl
  unfold ofEnvironment
  constructor
  · intro h
    split at h
    · next hunset =>
      cases h
      rw [hunset]
      exact ⟨_, _, hhost, .unset, rfl⟩
    · next value hvalue =>
      split at h
      · cases h
      · next port hread =>
        cases h
        rw [hvalue]
        exact ⟨_, port, hhost, portIn_some_iff.2 hread, rfl⟩
  · rintro ⟨host, port, hnamed, hport, rfl⟩
    rw [hostIn_eq_iff.2 hnamed]
    cases hvalue : lookup portVariable with
    | none =>
      rw [hvalue] at hport
      cases hport
      rfl
    | some value =>
      rw [hvalue, portIn_some_iff] at hport
      simp only [hport, forHost]

/-- It gives nothing if its port gives nothing. -/
theorem ofEnvironment_eq_error_iff {lookup : String → Option String} {e : ConfigError} :
    ofEnvironment lookup = .error e ↔ ∃ value, lookup portVariable = some value ∧
      (∀ port, ¬ PortIn (some value) port) ∧ e = .invalidPort value := by
  simp only [portIn_some_iff]
  unfold ofEnvironment
  cases lookup portVariable with
  | none => simp
  | some value => cases hread : readPort? (trimBlanks value.toList) <;> simp [hread, eq_comm]

/-- The environment gives a configuration exactly if its port is unset or, but for blanks around it,
a decimal form of a number of 16 bits. The configuration has that port and the host that is named,
and everything else as it is by default. If there is no configuration, the error quotes the value of
the port with its blanks, whatever the host. A configuration that was given is given again by an
environment that names its host and its port. -/
theorem ofEnvironment_exact (lookup : String → Option String) :
    ((∃ c, ofEnvironment lookup = .ok c) ↔ ∃ port, PortIn (lookup portVariable) port) ∧
    (∀ c, ofEnvironment lookup = .ok c ↔ ∃ host port, HostIn (lookup hostVariable) host ∧
      PortIn (lookup portVariable) port ∧ c = forHost host port) ∧
    (∀ e, ofEnvironment lookup = .error e ↔ ∃ value, lookup portVariable = some value ∧
      (∀ port, ¬ PortIn (some value) port) ∧ e = .invalidPort value) ∧
    (∀ e, ofEnvironment lookup = .error e → ∃ value, lookup portVariable = some value ∧
      e.text = "Invalid port '" ++ value ++ "' in RELEVANCED_PORT") ∧
    ∀ c, ofEnvironment lookup = .ok c → ∀ lookup' : String → Option String,
      lookup' hostVariable = some c.host → lookup' portVariable = some (toString c.port) →
      ofEnvironment lookup' = .ok c := by
  refine ⟨?_, fun c ↦ ofEnvironment_eq_ok_iff, fun e ↦ ofEnvironment_eq_error_iff,
    fun e he ↦ ?_, fun c hc lookup' hhost' hport' ↦ ?_⟩
  · simp only [ofEnvironment_eq_ok_iff]
    constructor
    · rintro ⟨_, _, port, -, hport, -⟩
      exact ⟨port, hport⟩
    · rintro ⟨port, hport⟩
      exact ⟨_, _, port, hostIn_eq_iff.1 rfl, hport, rfl⟩
  · obtain ⟨value, hvalue, -, rfl⟩ := ofEnvironment_eq_error_iff.1 he
    exact ⟨value, hvalue, ConfigError.text_invalidPort value⟩
  · obtain ⟨host, port, hhost, -, rfl⟩ := ofEnvironment_eq_ok_iff.1 hc
    apply ofEnvironment_eq_ok_iff.2
    refine ⟨host, port, ?_, ?_, rfl⟩
    · rw [hhost']
      exact hostIn_self hhost
    · rw [hport']
      exact portIn_toString port

/-- An environment that gives a host and a port with blanks around them, a plus and zeros. -/
def paddedEnvironment (name : String) : Option String :=
  if name = hostVariable then some " 10.0.0.7\u3000"
  else if name = portVariable then some "\t+009001 "
  else none

/-- What it gives is given again by the plain host and port. -/
theorem ofEnvironment_exact_padded :
    HostIn (paddedEnvironment hostVariable) "10.0.0.7" ∧
    PortIn (paddedEnvironment portVariable) 9001 ∧
    ofEnvironment paddedEnvironment = .ok (forHost "10.0.0.7" 9001) ∧
    ∀ lookup : String → Option String, lookup hostVariable = some "10.0.0.7" →
      lookup portVariable = some "9001" → ofEnvironment lookup = .ok (forHost "10.0.0.7" 9001) := by
  have hhost : HostIn (paddedEnvironment hostVariable) "10.0.0.7" := hostIn_eq_iff.1 rfl
  have hport : PortIn (paddedEnvironment portVariable) 9001 := portIn_some_iff.2 rfl
  obtain ⟨-, hiff, -, -, hagain⟩ := ofEnvironment_exact paddedEnvironment
  have hok : ofEnvironment paddedEnvironment = .ok (forHost "10.0.0.7" 9001) :=
    (hiff _).2 ⟨"10.0.0.7", 9001, hhost, hport, rfl⟩
  exact ⟨hhost, hport, hok, hagain _ hok⟩

/-- One more than the last port is no port. -/
example : ofEnvironment (fun _ ↦ some "65536") = .error (.invalidPort "65536") := rfl

end Config

end CentroidRpc
