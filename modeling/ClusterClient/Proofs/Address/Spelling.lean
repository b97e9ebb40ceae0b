import ClusterClient.Address.Parse
import Mathlib

/-!
# Spellings of addresses

An address can be spelled in five ways. The host that stands there is then freed of the blanks and
of the brackets around it, in this order, and is not looked at again, although nothing may be left
of it, or blanks that stood inside brackets. Such an address is another one, or none, once it has
been written and read again.

    read? cs = some a ↔ Spells cs host port, with a host that a has in its one spelling
                                                                      (read?_eq_some_iff)
    parse a.text = .ok a ↔ the host of a is something, in its one spelling and not torn by
      brackets                                                              (parse_text_iff)
-/

namespace ClusterClient

/-! ## Blanks -/

namespace Text

/-- There is no blank at either end. -/
structure Trimmed (cs : List Char) : Prop where
  head : ∀ c ∈ cs.head?, isBlank c = false
  last : ∀ c ∈ cs.getLast?, isBlank c = false

variable {cs : List Char}

theorem trimmed_trim (cs : List Char) : Trimmed (trim cs) := ⟨head_trim cs, last_trim cs⟩

theorem trim_eq_self_iff : trim cs = cs ↔ Trimmed cs := by
  constructor
  · intro h
    rw [← h]
    exact trimmed_trim cs
  · intro h
    exact trim_eq_self h.head h.last

theorem dropEndWhile_sublist {α : Type} (p : α → Bool) (xs : List α) :
    (dropEndWhile p xs).Sublist xs :=
  List.IsPrefix.sublist <| dropEndWhile_prefix p xs

theorem trim_sublist (cs : List Char) : (trim cs).Sublist cs :=
  (dropEndWhile_sublist isBlank _).trans (List.dropWhile_sublist isBlank)

theorem mem_dropWhile {α : Type} {p : α → Bool} {xs : List α} {x : α} (h : x ∈ xs)
    (hp : p x = false) : x ∈ xs.dropWhile p := by
  rw [← List.takeWhile_append_dropWhile (p := p) (l := xs)] at h
  rcases List.mem_append.1 h with h | h
  · have := List.mem_takeWhile_imp h
    rw [hp] at this
    cases this
  · exact h

/-- Only blanks are dropped. -/
theorem mem_trim {c : Char} (h : c ∈ cs) (visible : isBlank c = false) : c ∈ trim cs := by
  rw [trim, dropEndWhile, List.mem_reverse]
  exact mem_dropWhile (List.mem_reverse.2 (mem_dropWhile h visible)) visible

/-! ## Case -/

/-- Only letters have another case. -/
theorem toLower_eq_iff {c d : Char} (h : d.isAlpha = false) : c.toLower = d ↔ c = d := by
  by_cases upper : c.isUpper = true
  · have alpha : c.isAlpha = true := by simp [Char.isAlpha, upper]
    constructor
    · rintro rfl
      rw [Char.isAlpha_toLower_eq_isAlpha, alpha] at h
      cases h
    · rintro rfl
      rw [alpha] at h
      cases h
  · rw [Char.toLower_eq_of_not_isUpper upper]

theorem isBlank_eq_false_of_isAlphanum {c : Char} (h : c.isAlphanum = true) :
    isBlank c = false := by
  simp only [Char.isAlphanum, Char.isAlpha, Char.isUpper, Char.isLower, Char.isDigit,
    Bool.or_eq_true, Bool.and_eq_true, decide_eq_true_eq, ge_iff_le, UInt32.le_iff_toNat_le,
    Char.toNat_val] at h
  simp only [isBlank, Bool.or_eq_false_iff, Bool.and_eq_false_iff, decide_eq_false_iff_not,
    beq_eq_false_iff_ne]
  have letters : 'A'.toNat = 65 ∧ 'Z'.toNat = 90 ∧ 'a'.toNat = 97 ∧ 'z'.toNat = 122 := by decide
  have digits : '0'.toNat = 48 ∧ '9'.toNat = 57 := by decide
  omega

theorem isBlank_toLower (c : Char) : isBlank c.toLower = isBlank c := by
  by_cases upper : c.isUpper = true
  · have alpha : c.isAlpha = true := by simp [Char.isAlpha, upper]
    rw [isBlank_eq_false_of_isAlphanum (by simp [Char.isAlphanum, alpha]),
      isBlank_eq_false_of_isAlphanum (by simp [Char.isAlphanum, alpha])]
  · rw [Char.toLower_eq_of_not_isUpper upper]

theorem mem_map_toLower_iff {d : Char} (h : d.isAlpha = false) :
    d ∈ cs.map Char.toLower ↔ d ∈ cs := by
  simp only [List.mem_map, toLower_eq_iff h, exists_eq_right]

theorem trimmed_map_toLower (h : Trimmed cs) : Trimmed (cs.map Char.toLower) := by
  constructor
  · intro c hc
    rw [List.head?_map] at hc
    obtain ⟨d, hd, rfl⟩ := Option.map_eq_some_iff.1 hc
    exact (isBlank_toLower d).trans (h.head d hd)
  · intro c hc
    rw [List.getLast?_map] at hc
    obtain ⟨d, hd, rfl⟩ := Option.map_eq_some_iff.1 hc
    exact (isBlank_toLower d).trans (h.last d hd)

end Text

namespace Address

open Text

variable {cs host digits : List Char} {port : UInt16} {a : Address} {t : String}

/-! ## Ports -/

/-- A port as it is written in texts. -/
def numeral (port : UInt16) : List Char := Nat.toDigits 10 port.toNat

theorem numeral_ne_nil (port : UInt16) : numeral port ≠ [] := Nat.toDigits_ne_nil

theorem isDigit_of_mem_numeral {c : Char} (h : c ∈ numeral port) : c.isDigit = true :=
  Nat.isDigit_of_mem_toDigits (by decide) (by decide) h

theorem readPort_numeral (port : UInt16) : readPort (numeral port) = some port := by
  have digit : ∀ c ∈ numeral port, c.isDigit = true := fun _ => isDigit_of_mem_numeral
  have nonempty := numeral_ne_nil port
  have value : (numeral port).foldl (fun n c => 10 * n + (c.toNat - '0'.toNat)) 0 = port.toNat :=
    Nat.ofDigitChars_ten_toDigits
  generalize numeral port = digits at digit value nonempty
  unfold readPort
  split
  · exact absurd (digit '+' List.mem_cons_self) (by decide)
  · have all : digits.all Char.isDigit = true := List.all_eq_true.2 digit
    have some : digits.isEmpty = false := List.isEmpty_eq_false_iff.2 nonempty
    simp only [all, some, value, Bool.not_true, Bool.or_self, Bool.false_eq_true, if_false]
    rw [if_pos port.toNat_lt]
    simp

/-- What is read as a port is made of digits, but for a sign. -/
theorem isDigit_of_readPort (h : readPort digits = some port) :
    ∀ c ∈ digits, c = '+' ∨ c.isDigit = true := by
  intro c hc
  simp only [readPort] at h
  split_ifs at h with refused
  simp only [Bool.or_eq_true, Bool.not_eq_true', not_or, Bool.not_eq_false,
    List.all_eq_true] at refused
  have isDigit := refused.2 c
  split at isDigit
  · rcases List.mem_cons.1 hc with rfl | hc
    · exact .inl rfl
    · exact .inr (isDigit hc)
  · exact .inr (isDigit hc)

theorem not_mem_of_readPort (h : readPort digits = some port) : ':' ∉ digits ∧ ']' ∉ digits := by
  constructor <;> intro hc <;> simpa using isDigit_of_readPort h _ hc

/-! ## Hosts as they are written -/

/-- The text `cs`, which has no blanks around it, names this host, as it is written there, and this
port. -/
inductive Spells : List Char → List Char → UInt16 → Prop where
  | bracketed {host : List Char} (inner : ']' ∉ host) :
      Spells ('[' :: (host ++ [']'])) host defaultPort
  | bracketedPort {host digits : List Char} {port : UInt16} (inner : ']' ∉ host)
      (number : readPort digits = some port) :
      Spells ('[' :: (host ++ ']' :: ':' :: digits)) host port
  | plain {host : List Char} (start : host.head? ≠ some '[') (single : ':' ∉ host) :
      Spells host host defaultPort
  | plainPort {host digits : List Char} {port : UInt16} (start : host.head? ≠ some '[')
      (single : ':' ∉ host) (number : readPort digits = some port) :
      Spells (host ++ ':' :: digits) host port
  /-- An address with colons of its own needs brackets only if there is a port. -/
  | literal {host : List Char} (start : host.head? ≠ some '[') (colons : 2 ≤ host.count ':') :
      Spells host host defaultPort

theorem takeWhile_ne_append {c : Char} {before : List Char} (h : c ∉ before) (after : List Char) :
    (before ++ c :: after).takeWhile (· != c) = before ∧
      (before ++ c :: after).dropWhile (· != c) = c :: after := by
  have passes : ∀ x ∈ before, (x != c) = true := by
    rintro x hx
    exact bne_iff_ne.2 fun same => h (same ▸ hx)
  rw [List.takeWhile_append_of_pos passes, List.dropWhile_append_of_pos passes]
  simp

/-- The first `c` splits a list in two. -/
theorem exists_split_of_dropWhile_ne {c x : Char} {rest : List Char}
    (h : cs.dropWhile (· != c) = x :: rest) :
    x = c ∧ c ∉ cs.takeWhile (· != c) ∧ cs = cs.takeWhile (· != c) ++ c :: rest := by
  have stops := List.head?_dropWhile_not (· != c) cs
  rw [h] at stops
  obtain rfl : x = c := by simpa using stops
  refine ⟨rfl, fun hx => ?_, ?_⟩
  · simpa using List.mem_takeWhile_imp hx
  · rw [← h, List.takeWhile_append_dropWhile]

theorem not_mem_of_dropWhile_ne {c : Char} (h : cs.dropWhile (· != c) = []) : c ∉ cs := by
  intro hc
  simpa using List.dropWhile_eq_nil_iff.1 h c hc

theorem exists_spells_of_read? (h : read? cs = some a) :
    ∃ host port, Spells cs host port ∧ host ≠ [] ∧
      a = ⟨String.ofList (canonicalHost host), port⟩ := by
  unfold read? at h
  split at h
  · cases h
  · next rest =>
    -- the host is in brackets
    simp only at h
    split at h
    · next close tail =>
      obtain ⟨rfl, inner, split⟩ := exists_split_of_dropWhile_ne tail
      obtain ⟨some, rfl⟩ := ofWrittenHost_eq_some_iff.1 h
      refine ⟨_, _, ?_, some, rfl⟩
      have := Spells.bracketed inner
      rwa [← split] at this
    · next close digits tail =>
      obtain ⟨rfl, inner, split⟩ := exists_split_of_dropWhile_ne tail
      obtain ⟨port, number, h⟩ := Option.bind_eq_some_iff.1 h
      obtain ⟨some, rfl⟩ := ofWrittenHost_eq_some_iff.1 h
      refine ⟨_, port, ?_, some, rfl⟩
      have := Spells.bracketedPort inner number
      rwa [← split] at this
    · cases h
  · next bare =>
    have start : ∀ host after, cs = host ++ after → host.head? ≠ some '[' := by
      rintro host after rfl first
      obtain ⟨rest, rfl⟩ := List.head?_eq_some_iff.1 first
      exact bare _ rfl
    split at h
    · next tail =>
      obtain ⟨some, rfl⟩ := ofWrittenHost_eq_some_iff.1 h
      refine ⟨cs, _, ?_, some, rfl⟩
      exact .plain (start cs [] (by simp)) (not_mem_of_dropWhile_ne tail)
    · next colon after tail =>
      obtain ⟨rfl, single, split⟩ := exists_split_of_dropWhile_ne tail
      split at h
      · next more =>
        obtain ⟨some, rfl⟩ := ofWrittenHost_eq_some_iff.1 h
        refine ⟨cs, _, .literal (start cs [] (by simp)) ?_, some, rfl⟩
        have second : 0 < after.count ':' := List.count_pos_iff.2 (by simpa using more)
        rw [split, List.count_append, List.count_cons_self]
        omega
      · obtain ⟨port, number, h⟩ := Option.bind_eq_some_iff.1 h
        obtain ⟨some, rfl⟩ := ofWrittenHost_eq_some_iff.1 h
        refine ⟨_, port, ?_, some, rfl⟩
        have := Spells.plainPort (start _ _ split) single number
        rwa [← split] at this

theorem read?_of_spells (h : Spells cs host port) (some : host ≠ []) :
    read? cs = .some ⟨String.ofList (canonicalHost host), port⟩ := by
  have written (port : UInt16) :
      ofWrittenHost host port = .some ⟨String.ofList (canonicalHost host), port⟩ :=
    ofWrittenHost_eq_some_iff.2 ⟨some, rfl⟩
  cases h with
  | bracketed inner =>
    obtain ⟨take, drop⟩ := takeWhile_ne_append inner []
    simp only [read?, take, drop, written]
  | @bracketedPort _ digits _ inner number =>
    obtain ⟨take, drop⟩ := takeWhile_ne_append inner (':' :: digits)
    simp only [read?, take, drop, number, Option.bind_some, written]
  | plain start single =>
    have drop : cs.dropWhile (· != ':') = [] :=
      List.dropWhile_eq_nil_iff.2 fun c hc => bne_iff_ne.2 fun same => single (same ▸ hc)
    unfold read?
    split
    · exact absurd rfl some
    · exact absurd rfl start
    · rw [drop]
      exact written defaultPort
  | @plainPort _ digits _ start single number =>
    obtain ⟨take, drop⟩ := takeWhile_ne_append single digits
    have last : digits.contains ':' = false := by
      simpa using (not_mem_of_readPort number).1
    unfold read?
    split
    · next h => simp at h
    · next rest h =>
      cases host with
      | nil => exact absurd rfl some
      | cons c host =>
        cases h
        exact absurd rfl start
    · rw [drop]
      simp only [last, Bool.false_eq_true, if_false, number, Option.bind_some, take, written]
  | literal start colons =>
    unfold read?
    split
    · exact absurd rfl some
    · exact absurd rfl start
    · split
      · next tail =>
        have := List.count_eq_zero.2 (not_mem_of_dropWhile_ne tail)
        omega
      · next colon after tail =>
        obtain ⟨rfl, single, split⟩ := exists_split_of_dropWhile_ne tail
        have first := List.count_eq_zero.2 single
        have more : 0 < after.count ':' := by
          rw [split, List.count_append, List.count_cons_self, first] at colons
          omega
        have more : after.contains ':' = true := by
          simpa using List.count_pos_iff.1 more
        rw [if_pos more]
        exact written defaultPort

theorem read?_eq_some_iff :
    read? cs = some a ↔ ∃ host port, Spells cs host port ∧ host ≠ [] ∧
      a = ⟨String.ofList (canonicalHost host), port⟩ := by
  constructor
  · exact exists_spells_of_read?
  · rintro ⟨host, port, spells, some, rfl⟩
    exact read?_of_spells spells some

/-! ## The one spelling of a host -/

theorem length_canonicalHost_le (host : List Char) :
    (canonicalHost host).length ≤ (trim host).length := by
  rw [canonicalHost, List.length_map]
  exact (dropEndWhile_sublist ..).length_le.trans (List.length_dropWhile_le ..)

/-- A host is in its one spelling if there are neither blanks nor brackets around it and no
capital letters in it. -/
theorem canonicalHost_eq_self_iff : canonicalHost host = host ↔
    Trimmed host ∧ host.head? ≠ some '[' ∧ host.getLast? ≠ some ']' ∧
      host.map Char.toLower = host := by
  constructor
  · intro h
    have trimmed : trim host = host := by
      refine (trim_sublist host).eq_of_length_le ?_
      have := length_canonicalHost_le host
      rwa [h] at this
    have opened : (host.dropWhile (· == '[')) = host := by
      refine (List.dropWhile_sublist _).eq_of_length_le ?_
      have := (dropEndWhile_sublist (· == ']') (host.dropWhile (· == '['))).length_le
      rw [canonicalHost, trimmed] at h
      have := congrArg List.length h
      rw [List.length_map] at this
      omega
    have closed : dropEndWhile (· == ']') host = host := by
      refine (dropEndWhile_sublist _ host).eq_of_length_le ?_
      rw [canonicalHost, trimmed, opened] at h
      have := congrArg List.length h
      rw [List.length_map] at this
      omega
    refine ⟨trim_eq_self_iff.1 trimmed, fun first => ?_, fun last => ?_, ?_⟩
    · have := List.head?_dropWhile_not (· == '[') host
      rw [opened, first] at this
      simp at this
    · have := getLast?_dropEndWhile (· == ']') host
      rw [closed, last] at this
      simpa using this ']' rfl
    · rwa [canonicalHost, trimmed, opened, closed] at h
  · rintro ⟨trimmed, first, last, lower⟩
    have opened : host.dropWhile (· == '[') = host := by
      refine List.dropWhile_beq_eq_self_of_head?_ne ?_
      exact first
    have closed : dropEndWhile (· == ']') host = host := by
      refine dropEndWhile_eq_self fun c hc => beq_eq_false_iff_ne.2 ?_
      rintro rfl
      exact last hc
    rw [canonicalHost, trim_eq_self_iff.2 trimmed, opened, closed, lower]

/-- What is left after the brackets are gone may still have blanks around it, and nothing else. -/
theorem canonicalHost_canonicalHost_iff :
    canonicalHost (canonicalHost host) = canonicalHost host ↔ Trimmed (canonicalHost host) := by
  rw [canonicalHost_eq_self_iff]
  refine and_iff_left ⟨fun first => ?_, fun last => ?_, ?_⟩
  · rw [canonicalHost, List.head?_map] at first
    obtain ⟨c, hc, same⟩ := Option.map_eq_some_iff.1 first
    obtain rfl := (toLower_eq_iff (by decide)).1 same
    obtain ⟨after, split⟩ := dropEndWhile_prefix (· == ']') ((trim host).dropWhile (· == '['))
    have stops := List.head?_dropWhile_not (· == '[') (trim host)
    rw [← split, List.head?_append, hc] at stops
    simp at stops
  · rw [canonicalHost, List.getLast?_map] at last
    obtain ⟨c, hc, same⟩ := Option.map_eq_some_iff.1 last
    obtain rfl := (toLower_eq_iff (by decide)).1 same
    simpa using getLast?_dropEndWhile _ _ _ hc
  · rw [canonicalHost, List.map_map]
    exact List.map_congr_left fun c _ => c.toLower_toLower_eq_toLower

/-- A host without brackets is freed of its blanks and its capital letters. -/
theorem canonicalHost_of_plain (opening : '[' ∉ host) (closing : ']' ∉ host) :
    canonicalHost host = (trim host).map Char.toLower := by
  have subset := (trim_sublist host).subset
  have opened : (trim host).dropWhile (· == '[') = trim host := by
    refine List.dropWhile_beq_eq_self_of_head?_ne fun first => ?_
    exact opening (subset (List.mem_of_mem_head? first))
  have closed : dropEndWhile (· == ']') (trim host) = trim host := by
    refine dropEndWhile_eq_self fun c hc => beq_eq_false_iff_ne.2 ?_
    rintro rfl
    exact closing (subset (List.mem_of_mem_getLast? hc))
  rw [canonicalHost, opened, closed]

/-! ## The text of an address -/

theorem toList_text_of_mem (colon : ':' ∈ a.host.toList) :
    a.text.toList = '[' :: (a.host.toList ++ ']' :: ':' :: numeral a.port) := by
  have colon : a.host.toList.contains ':' = true := by simpa using colon
  rw [text, if_pos colon]
  simp [numeral, Nat.toString_eq_repr, Nat.toList_repr]

theorem toList_text_of_not_mem (single : ':' ∉ a.host.toList) :
    a.text.toList = a.host.toList ++ ':' :: numeral a.port := by
  have single : ¬a.host.toList.contains ':' = true := by simpa using single
  rw [text, if_neg single]
  simp [numeral, Nat.toString_eq_repr, Nat.toList_repr]

/-- A text that ends with a port ends with a digit. -/
theorem exists_digit_of_numeral (before : List Char) (port : UInt16) :
    ∃ d, (before ++ numeral port).getLast? = some d ∧ d.isDigit = true := by
  have some := numeral_ne_nil port
  refine ⟨(numeral port).getLast some, ?_, isDigit_of_mem_numeral (List.getLast_mem some)⟩
  rw [List.getLast?_append_of_ne_nil _ some, List.getLast?_eq_some_getLast some]

theorem isBlank_last_numeral (before : List Char) (port : UInt16) :
    ∀ c ∈ (before ++ numeral port).getLast?, isBlank c = false := by
  intro c hc
  obtain ⟨d, last, digit⟩ := exists_digit_of_numeral before port
  obtain rfl : d = c := Option.some.inj (last.symm.trans hc)
  exact isBlank_eq_false_of_isAlphanum (by simp [Char.isAlphanum, digit])

theorem dropEndWhile_numeral (before : List Char) (port : UInt16) :
    dropEndWhile isBlank (before ++ numeral port) = before ++ numeral port :=
  dropEndWhile_eq_self (isBlank_last_numeral before port)

theorem trim_text_of_mem (colon : ':' ∈ a.host.toList) : trim a.text.toList = a.text.toList := by
  have ends := dropEndWhile_numeral ('[' :: (a.host.toList ++ [']', ':'])) a.port
  simp only [List.cons_append, List.append_assoc, List.nil_append] at ends
  rw [toList_text_of_mem colon, trim, List.dropWhile_cons_of_neg (by decide), ends]

theorem trim_text_of_not_mem (single : ':' ∉ a.host.toList) :
    trim a.text.toList = a.host.toList.dropWhile isBlank ++ ':' :: numeral a.port := by
  have starts : (a.host.toList ++ ':' :: numeral a.port).dropWhile isBlank =
      a.host.toList.dropWhile isBlank ++ ':' :: numeral a.port := by
    rw [List.dropWhile_append]
    split
    · next none =>
      rw [List.isEmpty_iff.1 none, List.dropWhile_cons_of_neg (by decide), List.nil_append]
    · rfl
  have ends := dropEndWhile_numeral (a.host.toList.dropWhile isBlank ++ [':']) a.port
  simp only [List.append_assoc, List.cons_append, List.nil_append] at ends
  rw [toList_text_of_not_mem single, trim, starts, ends]

/-! ## Reading a text back -/

theorem not_mem_numeral (port : UInt16) : ':' ∉ numeral port ∧ ']' ∉ numeral port :=
  not_mem_of_readPort (readPort_numeral port)

/-- No text that ends with a port is a host in brackets. -/
theorem append_numeral_ne (before host : List Char) (port : UInt16) :
    before ++ numeral port ≠ host ++ [']'] := by
  intro same
  obtain ⟨d, last, digit⟩ := exists_digit_of_numeral before port
  rw [same, List.getLast?_concat, Option.some_inj] at last
  subst last
  cases digit

/-- In brackets a host is found again, unless a bracket of its own ends it before. -/
theorem spells_bracketed_iff {port' : UInt16} :
    Spells ('[' :: (cs ++ ']' :: ':' :: numeral port)) host port' ↔
      ']' ∉ cs ∧ host = cs ∧ port' = port := by
  constructor
  · intro h
    generalize eq : '[' :: (cs ++ ']' :: ':' :: numeral port) = whole at h
    cases h with
    | plain start | literal start =>
      subst eq
      exact absurd rfl start
    | @plainPort host digits _ start =>
      cases host with
      | nil => exact absurd (List.cons.inj eq).1 (by decide)
      | cons c host =>
        obtain rfl := (List.cons.inj eq).1
        exact absurd rfl start
    | bracketed inner =>
      have eq := (List.cons.inj eq).2
      refine absurd ?_ (append_numeral_ne (cs ++ [']', ':']) host port)
      simpa using eq
    | @bracketedPort _ digits _ inner number =>
      have after : ']' ∉ ':' :: digits := by simpa using (not_mem_of_readPort number).2
      obtain ⟨rfl, -, eq⟩ :=
        (List.append_cons_inj_of_notMem inner after).1 (List.cons.inj eq).2.symm
      obtain rfl := (List.cons.inj eq).2
      rw [readPort_numeral] at number
      exact ⟨inner, rfl, (Option.some.inj number).symm⟩
  · rintro ⟨inner, rfl, rfl⟩
    exact .bracketedPort inner (readPort_numeral _)

/-- Without brackets a host is found again, unless it was written in brackets itself and loses
them. -/
theorem of_spells_plain {port' : UInt16} (single : ':' ∉ cs)
    (h : Spells (cs ++ ':' :: numeral port) host port') :
    port' = port ∧ (host = cs ∨ host.length < cs.length) := by
  have last := (not_mem_numeral port).1
  generalize eq : cs ++ ':' :: numeral port = whole at h
  cases h with
  | plain _ single' =>
    subst eq
    simp at single'
  | literal _ colons =>
    subst eq
    rw [List.count_append, List.count_cons_self, List.count_eq_zero.2 single,
      List.count_eq_zero.2 last] at colons
    omega
  | bracketed inner =>
    refine absurd ?_ (append_numeral_ne (cs ++ [':']) ('[' :: host) port)
    simpa using eq
  | @bracketedPort _ digits _ inner number =>
    have eq : cs ++ ':' :: numeral port = '[' :: (host ++ [']']) ++ ':' :: digits := by
      simpa using eq
    obtain ⟨rfl, -, rfl⟩ := (List.append_cons_inj_of_notMem single last).1 eq
    rw [readPort_numeral] at number
    refine ⟨(Option.some.inj number).symm, .inr ?_⟩
    simp only [List.length_cons, List.length_append, List.length_nil]
    omega
  | plainPort _ _ number =>
    obtain ⟨rfl, -, rfl⟩ := (List.append_cons_inj_of_notMem single last).1 eq
    rw [readPort_numeral] at number
    exact ⟨(Option.some.inj number).symm, .inl rfl⟩

/-- An address is read back from its text exactly if its host is something, in its one spelling,
and has no closing bracket that would end it early. -/
theorem parse_text_iff : parse a.text = .ok a ↔
    a.host.toList ≠ [] ∧ canonicalHost a.host.toList = a.host.toList ∧
      ¬(':' ∈ a.host.toList ∧ ']' ∈ a.host.toList) := by
  rw [parse_eq_ok_iff, read?_eq_some_iff]
  by_cases colon : ':' ∈ a.host.toList
  · rw [trim_text_of_mem colon, toList_text_of_mem colon]
    simp only [spells_bracketed_iff]
    constructor
    · rintro ⟨host, port, ⟨inner, rfl, rfl⟩, some, same⟩
      refine ⟨some, ?_, fun both => inner both.2⟩
      have same := congrArg (fun b : Address => b.host.toList) same
      simpa using same.symm
    · rintro ⟨some, spelling, untorn⟩
      refine ⟨_, _, ⟨fun inner => untorn ⟨colon, inner⟩, rfl, rfl⟩, some, ?_⟩
      rw [spelling, String.ofList_toList]
  · rw [trim_text_of_not_mem colon]
    have fewer := List.dropWhile_sublist isBlank (l := a.host.toList)
    have single : ':' ∉ a.host.toList.dropWhile isBlank := fun h => colon (fewer.subset h)
    constructor
    · rintro ⟨host, port, spells, some, same⟩
      have same := congrArg (fun b : Address => b.host.toList) same
      simp only [String.toList_ofList] at same
      have short := congrArg List.length same
      have shorter := (length_canonicalHost_le host).trans (trim_sublist host).length_le
      obtain ⟨-, rfl | less⟩ := of_spells_plain single spells
      · -- nothing was dropped, or else the host would have become shorter
        have kept := fewer.eq_of_length_le (by omega)
        rw [kept] at same some
        exact ⟨some, same.symm, fun both => colon both.1⟩
      · have := fewer.length_le
        omega
    · rintro ⟨some, spelling, -⟩
      obtain ⟨trimmed, start, -, -⟩ := canonicalHost_eq_self_iff.1 spelling
      have kept : a.host.toList.dropWhile isBlank = a.host.toList := by
        refine fewer.eq_of_length_le ?_
        have := (dropEndWhile_sublist isBlank (a.host.toList.dropWhile isBlank)).length_le
        rwa [← trim, trim_eq_self_iff.2 trimmed] at this
      rw [kept]
      refine ⟨_, _, .plainPort start colon (readPort_numeral _), some, ?_⟩
      rw [spelling, String.ofList_toList]

/-! ## Main result -/

/-- What is true of the address `a` that was read from the text `t`. -/
structure Canonical (t : String) (a : Address) : Prop where
  /-- It is read back from its own text if something is left of the host, without blanks around it,
  and the host does not hold both a colon and a closing bracket; otherwise it is not. -/
  parse_text_iff : parse a.text = .ok a ↔
    a.host ≠ "" ∧ Trimmed a.host.toList ∧ ¬(':' ∈ a.host.toList ∧ ']' ∈ a.host.toList)
  /-- So it is if the host that was written holds no bracket and is not blank. -/
  plain : ∀ host port, Spells (trim t.toList) host port → '[' ∉ host → ']' ∉ host →
    (∃ c ∈ host, isBlank c = false) →
      a.host ≠ "" ∧ Trimmed a.host.toList ∧ parse a.text = .ok a

theorem canonical_of_parse (h : parse t = .ok a) : Canonical t a := by
  rw [parse_eq_ok_iff] at h
  constructor
  · obtain ⟨written, port, -, -, rfl⟩ := read?_eq_some_iff.1 h
    rw [parse_text_iff, ne_eq, ne_eq, ← String.toList_eq_nil_iff, String.toList_ofList,
      canonicalHost_canonicalHost_iff]
  · intro host port spells opening closing ⟨c, hc, visible⟩
    obtain rfl : a = ⟨String.ofList (canonicalHost host), port⟩ :=
      Option.some.inj (h.symm.trans (read?_of_spells spells (List.ne_nil_of_mem hc)))
    have canonical := canonicalHost_of_plain opening closing
    have trimmed : Trimmed (canonicalHost host) := by
      rw [canonical]
      exact trimmed_map_toLower (trimmed_trim host)
    have some : canonicalHost host ≠ [] := by
      rw [canonical]
      exact List.ne_nil_of_mem (List.mem_map_of_mem (mem_trim hc visible))
    have untorn : ']' ∉ canonicalHost host := by
      rw [canonical, mem_map_toLower_iff (by decide)]
      exact fun inner => closing ((trim_sublist host).subset inner)
    refine ⟨?_, ?_, parse_text_iff.2 ⟨?_, ?_, ?_⟩⟩
    · rwa [ne_eq, ← String.toList_eq_nil_iff, String.toList_ofList]
    · rwa [String.toList_ofList]
    · rwa [String.toList_ofList]
    · rwa [String.toList_ofList, canonicalHost_canonicalHost_iff]
    · rw [String.toList_ofList]
      exact fun both => untorn both.2

/-- The address of a host in capitals, with a port. -/
theorem canonical_of_parse_literal :
    let t := "[ FE80::A ]:27018"
    let a : Address := ⟨"fe80::a", 27018⟩
    parse t = .ok a ∧ Spells (trim t.toList) " FE80::A ".toList 27018 ∧ Canonical t a ∧
      parse a.text = .ok a := by
  intro t a
  have parsed : parse t = .ok a := by decide +kernel
  have split : trim t.toList = '[' :: (" FE80::A ".toList ++ ']' :: ':' :: "27018".toList) := by
    decide +kernel
  have spells : Spells (trim t.toList) " FE80::A ".toList 27018 := by
    rw [split]
    exact .bracketedPort (by decide) (by decide +kernel)
  have canonical := canonical_of_parse parsed
  have plain := canonical.plain _ _ spells (by decide) (by decide) ⟨'F', by decide, by decide⟩
  exact ⟨parsed, spells, canonical, plain.2.2⟩

/-- The brackets may hold nothing but a blank, brackets may hide blanks from those that drop them,
and a bracket inside ends an address too early. -/
theorem parse_not_canonical :
    (parse "[ ]" = .ok ⟨"", 27017⟩ ∧ text ⟨"", 27017⟩ = ":27017" ∧
      parse ":27017" = .error (.invalidAddress ":27017")) ∧
    (parse "[[ a]" = .ok ⟨" a", 27017⟩ ∧ text ⟨" a", 27017⟩ = " a:27017" ∧
      parse " a:27017" = .ok ⟨"a", 27017⟩) ∧
    (parse "a ]" = .ok ⟨"a ", 27017⟩ ∧ text ⟨"a ", 27017⟩ = "a :27017" ∧
      parse "a :27017" = .ok ⟨"a", 27017⟩) ∧
    (parse "a]b::c" = .ok ⟨"a]b::c", 27017⟩ ∧ text ⟨"a]b::c", 27017⟩ = "[a]b::c]:27017" ∧
      parse "[a]b::c]:27017" = .error (.invalidAddress "[a]b::c]:27017")) := by
  decide +kernel

end Address

end ClusterClient
