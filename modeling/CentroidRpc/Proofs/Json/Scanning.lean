import CentroidRpc.Proofs.Json.Grammar

/-!
# Texts of JSON from the left

What stands between two quotes and is unescaped gets shorter, or it has no escapes
(`Json.unescape?_cases`). So a text that is closed within some characters is shorter than they are
(`Json.scan_append`), and only a text that needs no escapes is read as it is written
(`Json.Plain.scan_quoted`).
-/

namespace CentroidRpc

namespace Json

/-! ### Texts between quotes -/

private theorem length_le_of_map_cons {o : Option (List Char)} {char : Char} {rest cs : List Char}
    (h : o.map (char :: ·) = some cs)
    (ih : ∀ {cs}, o = some cs → cs = rest ∧ Plain rest ∨ cs.length < rest.length) :
    cs.length ≤ rest.length + 1 := by
  obtain ⟨cs, hcs, rfl⟩ := Option.map_eq_some_iff.1 h
  rcases ih hcs with ⟨rfl, -⟩ | hlength
  · exact le_rfl
  · exact Nat.succ_le_succ hlength.le

/-- What is unescaped gets shorter, or it stands for itself. -/
theorem unescape?_cases {raw cs : List Char} (h : unescape? raw = some cs) :
    cs = raw ∧ Plain raw ∨ cs.length < raw.length := by
  -- Every escape takes more characters than it stands for; only plain text keeps its length.
  induction raw using unescape?.induct generalizing cs with
  | case1 =>
    cases h
    exact .inl ⟨rfl, List.forall_mem_nil _⟩
  | case2 a b c d rest ih ihpair =>
    rw [unescape?] at h
    obtain ⟨unit, -, h⟩ := Option.bind_eq_some_iff.1 h
    split at h
    · next char hchar =>
      have hlength := length_le_of_map_cons h ih
      simp only [List.length_cons]
      omega
    · split at h
      · next hnone _ a' b' c' d' rest =>
        obtain ⟨char, hchar, h⟩ := Option.bind_eq_some_iff.1 h
        have hlength := length_le_of_map_cons h ihpair
        simp only [List.length_cons]
        omega
      · cases h
  | case3 c rest hother ih =>
    rw [unescape?] at h
    · obtain ⟨char, hchar, h⟩ := Option.bind_eq_some_iff.1 h
      have hlength := length_le_of_map_cons h ih
      simp only [List.length_cons]
      omega
    · exact hother
  | case4 c rest hunicode hshort hc ih =>
    rw [unescape?, if_pos hc] at h
    · obtain ⟨cs, hcs, rfl⟩ := Option.map_eq_some_iff.1 h
      rcases ih hcs with ⟨rfl, hplain⟩ | hlength
      · exact .inl ⟨rfl, List.forall_mem_cons.2 ⟨hc, hplain⟩⟩
      · exact .inr (Nat.succ_lt_succ hlength)
    · exact hunicode
    · exact hshort
  | case5 c rest hunicode hshort hc =>
    rw [unescape?, if_neg hc] at h
    · cases h
    · exact hunicode
    · exact hshort

/-- What does not get shorter stands for itself. -/
theorem plain_of_unescape? {raw cs : List Char} (h : unescape? raw = some cs)
    (hlength : raw.length ≤ cs.length) : Plain cs := by
  rcases unescape?_cases h with ⟨rfl, hplain⟩ | hshorter
  · exact hplain
  · omega

example : unescape? "\\ud83d\\ude00".toList = some [Char.ofNat 0x1f600] := by decide +kernel

/-- A text that stands for itself is unescaped to itself. -/
theorem Plain.unescape?_eq {cs : List Char} (h : Plain cs) : unescape? cs = some cs := by
  induction cs with
  | nil => rfl
  | cons c cs ih =>
    obtain ⟨hc, hcs⟩ := List.forall_mem_cons.1 h
    have hslash : c ≠ '\\' := by
      rintro rfl
      cases hc
    rw [Json.unescape?, if_pos hc, ih hcs]
    · rfl
    all_goals grind

/-! ### Reading from the left -/

private theorem wordOf?_ne_text {cs : List Char} {s : String} : wordOf? cs ≠ some (.text s) := by
  unfold wordOf?
  split_ifs <;> simp

private theorem not_mem_separatorOf? {c : Char} {marks : List Token}
    (h : separatorOf? c = some marks) (a : Atom) : .atom a ∉ marks := by
  unfold separatorOf? at h
  split at h <;> cases h <;> simp

private theorem Place.not_mem_endWord {word : List Char} {ts : List Token}
    (h : endWord word = some ts) (s : String) : .atom (.text s) ∉ ts := by
  unfold endWord at h
  split at h
  · cases h
    exact List.not_mem_nil
  · obtain ⟨a, ha, rfl⟩ := Option.map_eq_some_iff.1 h
    intro hmem
    cases List.mem_singleton.1 hmem
    exact wordOf?_ne_text ha

/-- A text that is closed by a character is no longer than what is behind the quote that opens it,
and a character adds at most itself to what is behind a quote. -/
theorem Place.step_pending {p p' : Place} {c : Char} {ts : List Token}
    (h : p.step c = some (ts, p')) :
    p'.pending ≤ p.pending + 1 ∧ ∀ s, .atom (.text s) ∈ ts → s.toList.length ≤ p.pending := by
  cases p with
  | between word =>
    simp only [step] at h
    split at h
    · next marks hmarks =>
      obtain ⟨words, hwords, heq⟩ := Option.map_eq_some_iff.1 h
      cases heq
      refine ⟨Nat.zero_le _, fun s hs ↦ ?_⟩
      rcases List.mem_append.1 hs with hs | hs
      · exact absurd hs (not_mem_endWord hwords s)
      · exact absurd hs (not_mem_separatorOf? hmarks _)
    · split_ifs at h <;> cases h <;> exact ⟨Nat.zero_le _, nofun⟩
  | within read =>
    simp only [step] at h
    split_ifs at h
    · obtain ⟨cs, hcs, heq⟩ := Option.map_eq_some_iff.1 h
      cases heq
      refine ⟨Nat.zero_le _, fun s hs ↦ ?_⟩
      cases List.mem_singleton.1 hs
      rw [String.toList_ofList]
      rcases unescape?_cases hcs with ⟨rfl, -⟩ | hlength
      · exact le_rfl
      · exact hlength.le
    all_goals
      cases h
      exact ⟨List.length_append.le, nofun⟩
  | escaped read =>
    cases h
    exact ⟨List.length_append.le, nofun⟩

/-- One character is read after another. -/
theorem scan_cons (p : Place) (c : Char) (cs : List Char) :
    scan p (c :: cs) = (p.step c).bind fun next ↦ (scan next.2 cs).map (next.1 ++ ·) := by
  cases p <;> rfl

/-- What is read of some characters is read before what follows them. A text that is closed among
them is shorter than they are with what was behind the last quote. -/
theorem scan_append {p : Place} {cs rest : List Char} {ts : List Token}
    (h : scan p (cs ++ rest) = some ts) : ∃ p' before after, ts = before ++ after ∧
      scan p' rest = some after ∧ p'.pending ≤ p.pending + cs.length ∧
      ∀ s, .atom (.text s) ∈ before → s.toList.length < p.pending + cs.length := by
  induction cs generalizing p ts with
  | nil => exact ⟨p, [], ts, rfl, h, le_rfl, nofun⟩
  | cons c cs ih =>
    rw [List.cons_append, scan_cons] at h
    obtain ⟨⟨now, next⟩, hstep, h⟩ := Option.bind_eq_some_iff.1 h
    obtain ⟨later, hlater, rfl⟩ := Option.map_eq_some_iff.1 h
    obtain ⟨hpending, hnow⟩ := Place.step_pending hstep
    obtain ⟨p', before, after, rfl, hafter, hpending', hbefore⟩ := ih (p := next) hlater
    refine ⟨p', now ++ before, after, (List.append_assoc ..).symm, hafter, ?_, fun s hs ↦ ?_⟩
    · rw [List.length_cons]
      omega
    · rw [List.length_cons]
      rcases List.mem_append.1 hs with hs | hs
      · have hlength := hnow s hs
        omega
      · have hlength := hbefore s hs
        omega

/-! ### Objects as they are written -/

section Written

variable {c : Char} {cs rest word : List Char} {marks : List Token} {a : Atom}

/-- A separator is read on its own. -/
theorem scan_separator (hc : separatorOf? c = some marks) :
    scan (.between []) (c :: rest) = (scan (.between []) rest).map (marks ++ ·) := by
  rw [scan_cons, Place.step, hc]
  rfl

private theorem scan_wordEnd (hword : word ≠ []) (ha : wordOf? word = some a)
    (hc : separatorOf? c = some marks) :
    scan (.between word) (c :: rest) = (scan (.between []) rest).map (.atom a :: marks ++ ·) := by
  simp [scan_cons, Place.step, hc, Place.endWord, hword, ha]

/-- A word goes on while there is neither a separator nor a quote. -/
theorem scan_word (hcs : cs.all (fun c ↦ (separatorOf? c).isNone && c != '"') = true) :
    scan (.between word) (cs ++ rest) = scan (.between (word ++ cs)) rest := by
  induction cs generalizing word with
  | nil => rw [List.nil_append, List.append_nil]
  | cons c cs ih =>
    rw [List.all_cons, Bool.and_eq_true, Bool.and_eq_true, Option.isNone_iff_eq_none,
      bne_iff_ne] at hcs
    obtain ⟨⟨hc, hquote⟩, hcs⟩ := hcs
    simp [scan_cons, Place.step, hc, hquote, ih hcs]

/-- A text goes on while its characters stand for themselves. -/
theorem Plain.scan_within (h : Plain cs) :
    scan (.within word) (cs ++ rest) = scan (.within (word ++ cs)) rest := by
  induction cs generalizing word with
  | nil => rw [List.nil_append, List.append_nil]
  | cons c cs ih =>
    obtain ⟨hc, hcs⟩ := List.forall_mem_cons.1 h
    simp only [standsForItself, Bool.and_eq_true, bne_iff_ne] at hc
    simp [scan_cons, Place.step, hc, ih hcs]

/-- A quote that ends no text opens one. -/
theorem scan_quote : scan (.between []) ('"' :: rest) = scan (.within []) rest := by
  rw [scan_cons]
  exact Option.map_id'

/-- A quote that closes a text ends what is to be unescaped. -/
theorem scan_close : scan (.within word) ('"' :: rest) = (unescape? word).bind fun cs ↦
    (scan (.between []) rest).map (.atom (.text (String.ofList cs)) :: ·) := by
  rw [scan_cons, Place.step, if_pos rfl, Option.bind_map]
  rfl

/-- A text that stands for itself is read up to the quote that closes it. -/
theorem Plain.scan_closed (h : Plain cs) : scan (.within []) (cs ++ '"' :: rest) =
    (scan (.between []) rest).map (.atom (.text (String.ofList cs)) :: ·) := by
  rw [h.scan_within, List.nil_append, scan_close, h.unescape?_eq, Option.bind_some]

/-- A text that stands for itself is read as it is. -/
theorem Plain.scan_quoted (h : Plain cs) : scan (.between []) ('"' :: (cs ++ '"' :: rest)) =
    (scan (.between []) rest).map (.atom (.text (String.ofList cs)) :: ·) := by
  rw [scan_quote, h.scan_closed]

end Written

section Digits

variable {cs : List Char} {n : ℕ}

private theorem toDigits_eq_of_head? (h : (Nat.toDigits 10 n).head? = some '0') :
    Nat.toDigits 10 n = ['0'] := by
  induction n using Nat.strongRecOn with
  | ind n ih =>
    by_cases hlt : n < 10
    · rw [Nat.toDigits_of_lt_base hlt] at h ⊢
      rw [Option.some.inj h]
    · have hfirst : (Nat.toDigits 10 (n / 10)).head? = some '0' := by
        rw [Nat.toDigits_of_base_le (by decide) (Nat.le_of_not_lt hlt), List.head?_append,
          Option.or_of_isSome (List.isSome_head?.2 Nat.toDigits_ne_nil)] at h
        exact h
      have hzero := congrArg (Nat.ofDigitChars 10 · 0) (ih (n / 10) (by omega) hfirst)
      rw [Nat.ofDigitChars_ten_toDigits] at hzero
      have hzero : n / 10 = 0 := hzero
      omega

private theorem magnitudeOf?_of_digits (h : Digits cs n)
    (hzero : cs.head? = some '0' → cs = ['0']) :
    magnitudeOf? cs = some (n : ℚ) := by
  have hwhole : wholeOf? cs = some n := by
    rw [wholeOf?, if_neg fun hboth ↦ hboth.2 (hzero hboth.1), digitsOf?, readDigits?_eq,
      if_pos (List.all_eq_true.2 h.isDigit), h.value, if_neg (by simp [h.ne_nil])]
  have htake : cs.takeWhile (·.isDigit) = cs := List.takeWhile_eq_self_iff.2 h.isDigit
  have hdrop : cs.dropWhile (·.isDigit) = [] := List.dropWhile_eq_nil_iff.2 h.isDigit
  simp [magnitudeOf?, htake, hdrop, hwhole, fractionOf?, exponentOf?]

private theorem wordOf?_of_digits (h : Digits cs n) (hzero : cs.head? = some '0' → cs = ['0']) :
    wordOf? cs = some (.number n) := by
  have hne {word : List Char} {c : Char} (hmem : c ∈ word) (hc : c.isDigit = false) :
      cs ≠ word := by
    rintro rfl
    exact absurd (h.isDigit c hmem) (by rw [hc]; decide)
  have hnumber : numberOf? cs = some (n : ℚ) := by
    unfold numberOf?
    split
    · next hminus => exact absurd rfl (hne List.mem_cons_self (by decide))
    · exact magnitudeOf?_of_digits h hzero
  rw [wordOf?, if_neg (hne (c := 'n') (by decide) (by decide)),
    if_neg (hne (c := 't') (by decide) (by decide)),
    if_neg (hne (c := 'f') (by decide) (by decide)), hnumber]
  rfl

example : wordOf? "-1.50e1".toList = some (.number (-15)) := by decide +kernel

/-- A number in digits is read as it is. -/
theorem scan_toDigits {c : Char} {rest : List Char} {marks : List Token}
    (hc : separatorOf? c = some marks) : scan (.between []) (Nat.toDigits 10 n ++ c :: rest) =
      (scan (.between []) rest).map (.atom (.number n) :: marks ++ ·) := by
  have hdigits := digits_toDigits n
  have hword : (Nat.toDigits 10 n).all (fun c ↦ (separatorOf? c).isNone && c != '"') = true := by
    refine List.all_eq_true.2 fun d hd ↦ ?_
    have hdigit := hdigits.isDigit d hd
    have hquote : d ≠ '"' := by
      rintro rfl
      cases hdigit
    unfold separatorOf?
    split <;> first | cases hdigit | simp [hquote]
  rw [scan_word hword, List.nil_append,
    scan_wordEnd hdigits.ne_nil (wordOf?_of_digits hdigits toDigits_eq_of_head?) hc]

end Digits

end Json

end CentroidRpc
