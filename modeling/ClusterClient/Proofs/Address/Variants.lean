import ClusterClient.Proofs.Address.Spelling

/-!
# Ways to write an address

The same host and port can be written with or without brackets around the host, without the port if
it is the default one, in capital or small letters and with blanks around everything. All that is
accepted of these is read as one address, and its own text is one of them.

    Variant host port t → parse t = .ok ⟨host, port⟩                  (parse_of_variant)
    Variant host port (text ⟨host, port⟩)                             (variant_text)
    text ⟨host, port⟩ = text ⟨other, port'⟩ → host = other ∧ port = port'
                                                                      (unambiguous_of_bare)
-/

namespace ClusterClient

namespace Text

variable {cs ds before after : List Char}

/-! ## Blanks around a text -/

theorem trim_append (blank : ∀ c ∈ before, isBlank c = true)
    (blank' : ∀ c ∈ after, isBlank c = true) (trimmed : Trimmed cs) :
    trim (before ++ (cs ++ after)) = cs := by
  have start : (before ++ (cs ++ after)).dropWhile isBlank = (cs ++ after).dropWhile isBlank :=
    List.dropWhile_append_of_pos blank
  rw [trim, start]
  cases cs with
  | nil =>
    rw [List.nil_append, List.dropWhile_eq_nil_iff.2 blank', dropEndWhile_nil]
  | cons c cs =>
    have visible : isBlank c = false := trimmed.head c rfl
    rw [List.cons_append, List.dropWhile_cons_of_neg (by simp [visible]), ← List.cons_append,
      dropEndWhile, List.reverse_append, List.dropWhile_append_of_pos (by simpa using blank')]
    exact dropEndWhile_eq_self trimmed.last

/-! ## Letters in either case -/

theorem isAlpha_eq_false_of_isDigit {c : Char} (h : c.isDigit = true) : c.isAlpha = false := by
  simp only [Char.isDigit, Bool.and_eq_true, decide_eq_true_eq, ge_iff_le,
    UInt32.le_iff_toNat_le] at h
  simp only [Char.isAlpha, Char.isUpper, Char.isLower, Bool.or_eq_false_iff,
    Bool.and_eq_false_iff, decide_eq_false_iff_not, ge_iff_le, UInt32.le_iff_toNat_le]
  have letters : 'A'.val.toNat = 65 ∧ 'a'.val.toNat = 97 := by decide
  have digits : '9'.val.toNat = 57 := by decide
  omega

theorem trimmed_of_map_toLower (h : Trimmed (cs.map Char.toLower)) : Trimmed cs := by
  constructor
  · intro c hc
    rw [← isBlank_toLower]
    exact h.head _ (by rw [List.head?_map, Option.mem_def.1 hc]; rfl)
  · intro c hc
    rw [← isBlank_toLower]
    exact h.last _ (by rw [List.getLast?_map, Option.mem_def.1 hc]; rfl)

theorem count_map_toLower {d : Char} (h : d.isAlpha = false) :
    (cs.map Char.toLower).count d = cs.count d := by
  rw [List.count_eq_countP, List.countP_map, List.count_eq_countP]
  refine List.countP_congr fun c _ => ?_
  simp only [Function.comp_apply, beq_iff_eq, toLower_eq_iff h]

/-- What has no letters has no other case. -/
theorem eq_of_map_toLower (symbols : ∀ d ∈ ds, d.isAlpha = false)
    (same : cs.map Char.toLower = ds.map Char.toLower) : cs = ds := by
  induction ds generalizing cs with
  | nil => exact List.map_eq_nil_iff.1 same
  | cons d ds ih =>
    obtain ⟨c, rest, rfl, first, same⟩ := List.map_eq_cons_iff.1 same
    have symbol : d.isAlpha = false := symbols d List.mem_cons_self
    have kept : d.toLower = d := (toLower_eq_iff symbol).2 rfl
    rw [kept, toLower_eq_iff symbol] at first
    rw [first, ih (fun d hd => symbols d (List.mem_cons_of_mem _ hd)) same]

/-- Between what has no letters, only the letters of a host can change. -/
theorem exists_between_of_map_toLower {host letters : List Char}
    (opening : ∀ d ∈ before, d.isAlpha = false) (closing : ∀ d ∈ after, d.isAlpha = false)
    (same : letters.map Char.toLower = (before ++ (host ++ after)).map Char.toLower) :
    ∃ host', host'.map Char.toLower = host.map Char.toLower ∧
      letters = before ++ (host' ++ after) := by
  rw [List.map_append, List.map_append] at same
  obtain ⟨start, rest, rfl, opened, same⟩ := List.map_eq_append_iff.1 same
  obtain ⟨host', last, rfl, case, closed⟩ := List.map_eq_append_iff.1 same
  exact ⟨host', case, by rw [eq_of_map_toLower opening opened, eq_of_map_toLower closing closed]⟩

end Text

namespace Address

open Text

/-- A host as addresses keep it. -/
structure Bare (host : List Char) : Prop where
  nonempty : host ≠ []
  small : ∀ c ∈ host, c.isUpper = false
  opening : '[' ∉ host
  closing : ']' ∉ host
  trimmed : Trimmed host

/-- The texts for a host and a port, with the letters as they are in the host. -/
inductive Written (host : List Char) (port : UInt16) : List Char → Prop where
  | plain (unsaid : port = defaultPort) (colons : host.count ':' = 0 ∨ 2 ≤ host.count ':') :
      Written host port host
  | plainPort (single : ':' ∉ host) : Written host port (host ++ ':' :: numeral port)
  | bracketed (unsaid : port = defaultPort) : Written host port ('[' :: (host ++ [']']))
  | bracketedPort : Written host port ('[' :: (host ++ ']' :: ':' :: numeral port))

/-- The text is one of these, but for the case of its letters and for blanks around it. -/
def Variant (host : List Char) (port : UInt16) (t : String) : Prop :=
  ∃ before form letters after, t.toList = before ++ (letters ++ after) ∧
    (∀ c ∈ before, isBlank c = true) ∧ (∀ c ∈ after, isBlank c = true) ∧
    Written host port form ∧ letters.map Char.toLower = form.map Char.toLower

variable {host host' letters form : List Char} {port : UInt16} {t : String}

/-! ## Letters of a host -/

/-- Where the letters of a text are changed, those of the host are, and nothing else. -/
theorem exists_host_of_written (h : Written host port form)
    (same : letters.map Char.toLower = form.map Char.toLower) :
    ∃ host', host'.map Char.toLower = host.map Char.toLower ∧ Written host' port letters := by
  have digits : ∀ d ∈ numeral port, d.isAlpha = false :=
    fun d hd => isAlpha_eq_false_of_isDigit (isDigit_of_mem_numeral hd)
  have number : ∀ d ∈ ':' :: numeral port, d.isAlpha = false :=
    List.forall_mem_cons.2 ⟨by decide, digits⟩
  have opening : ∀ d ∈ ['['], d.isAlpha = false := List.forall_mem_singleton.2 (by decide)
  cases h with
  | plain unsaid colons =>
    refine ⟨letters, same, .plain unsaid ?_⟩
    have symbol : ':'.isAlpha = false := by decide
    rwa [← count_map_toLower symbol, same, count_map_toLower symbol]
  | plainPort single =>
    obtain ⟨host', case, rfl⟩ :=
      exists_between_of_map_toLower (List.forall_mem_nil _) number same
    refine ⟨host', case, .plainPort ?_⟩
    rwa [← mem_map_toLower_iff (by decide), case, mem_map_toLower_iff (by decide)]
  | bracketed unsaid =>
    have closing : ∀ d ∈ [']'], d.isAlpha = false := List.forall_mem_singleton.2 (by decide)
    obtain ⟨host', case, rfl⟩ := exists_between_of_map_toLower opening closing same
    exact ⟨host', case, .bracketed unsaid⟩
  | bracketedPort =>
    have closing : ∀ d ∈ ']' :: ':' :: numeral port, d.isAlpha = false :=
      List.forall_mem_cons.2 ⟨by decide, number⟩
    obtain ⟨host', case, rfl⟩ := exists_between_of_map_toLower opening closing same
    exact ⟨host', case, .bracketedPort⟩

/-! ## Reading -/

/-- No text for a host starts or ends with a blank. -/
theorem trimmed_of_written (h : Written host port form) (trimmed : Trimmed host) :
    Trimmed form := by
  have visible (c : Char) (h : c = '[' ∨ c = ']') : isBlank c = false := by
    rcases h with rfl | rfl <;> decide
  cases h with
  | plain => exact trimmed
  | plainPort =>
    constructor
    · cases host with
      | nil => exact fun c hc => by cases hc; decide
      | cons first host => exact trimmed.head
    · simpa using isBlank_last_numeral (host ++ [':']) port
  | bracketed =>
    constructor
    · exact fun c hc => visible c (.inl (Option.some.inj hc).symm)
    · intro c hc
      rw [← List.cons_append, List.getLast?_concat] at hc
      exact visible c (.inr (Option.some.inj hc).symm)
  | bracketedPort =>
    constructor
    · exact fun c hc => visible c (.inl (Option.some.inj hc).symm)
    · simpa using isBlank_last_numeral ('[' :: (host ++ [']', ':'])) port

theorem spells_of_written (h : Written host port form) (opening : '[' ∉ host)
    (closing : ']' ∉ host) : Spells form host port := by
  have start : host.head? ≠ some '[' := fun first => opening (List.mem_of_mem_head? first)
  cases h with
  | plain unsaid colons =>
    subst unsaid
    rcases colons with single | colons
    · exact .plain start (List.count_eq_zero.1 single)
    · exact .literal start colons
  | plainPort single => exact .plainPort start single (readPort_numeral port)
  | bracketed unsaid =>
    subst unsaid
    exact .bracketed closing
  | bracketedPort => exact .bracketedPort closing (readPort_numeral port)

section

variable (bare : Bare host)

include bare

/-- A bare host in either case has neither blanks nor brackets around it. -/
theorem plain_of_bare (case : host'.map Char.toLower = host.map Char.toLower) :
    host' ≠ [] ∧ '[' ∉ host' ∧ ']' ∉ host' ∧ Trimmed host' := by
  refine ⟨?_, ?_, ?_, trimmed_of_map_toLower ?_⟩
  · rintro rfl
    exact bare.nonempty (List.map_eq_nil_iff.1 case.symm)
  · rw [← mem_map_toLower_iff (by decide), case, mem_map_toLower_iff (by decide)]
    exact bare.opening
  · rw [← mem_map_toLower_iff (by decide), case, mem_map_toLower_iff (by decide)]
    exact bare.closing
  · rw [case]
    exact trimmed_map_toLower bare.trimmed

theorem canonicalHost_of_bare (case : host'.map Char.toLower = host.map Char.toLower) :
    canonicalHost host' = host := by
  obtain ⟨-, opening, closing, trimmed⟩ := plain_of_bare bare case
  have small : host.map Char.toLower = host.map id := by
    refine List.map_congr_left fun c hc => Char.toLower_eq_of_not_isUpper ?_
    exact Bool.eq_false_iff.1 (bare.small c hc)
  rw [canonicalHost_of_plain opening closing, trim_eq_self_iff.2 trimmed, case, small, List.map_id]

end

section

variable {host : String} (bare : Bare host.toList)

include bare

theorem ofHost_of_bare (port : UInt16) : ofHost host port = ⟨host, port⟩ := by
  rw [ofHost, canonicalHost_of_bare bare rfl, String.ofList_toList]

theorem parse_of_variant (h : Variant host.toList port t) : parse t = .ok ⟨host, port⟩ := by
  obtain ⟨before, form, letters, after, split, blank, blank', written, same⟩ := h
  obtain ⟨host', case, written'⟩ := exists_host_of_written written same
  obtain ⟨some, opening, closing, trimmed⟩ := plain_of_bare bare case
  rw [parse_eq_ok_iff, split, trim_append blank blank' (trimmed_of_written written' trimmed),
    read?_of_spells (spells_of_written written' opening closing) some,
    canonicalHost_of_bare bare case, String.ofList_toList]

end

/-- The text of an address is one of the ways to write it. -/
theorem variant_text (host : String) (port : UInt16) :
    Variant host.toList port (text ⟨host, port⟩) := by
  have written : Written host.toList port (text ⟨host, port⟩).toList := by
    by_cases colon : ':' ∈ host.toList
    · rw [toList_text_of_mem colon]
      exact .bracketedPort
    · rw [toList_text_of_not_mem colon]
      exact .plainPort colon
  exact ⟨[], _, _, [], by rw [List.nil_append, List.append_nil], by simp, by simp, written, rfl⟩

/-! ## Main result -/

/-- How an address with this host can be written, and what its text tells. -/
structure Unambiguous (host : String) : Prop where
  /-- The text is read back, ... -/
  parse_text : ∀ port, parse (ofHost host port).text = .ok (ofHost host port)
  /-- ... and so is every other way to write the same host and port. -/
  parse_variant : ∀ port t, Variant host.toList port t → parse t = .ok (ofHost host port)
  /-- The text is one of them. -/
  variant_text : ∀ port, Variant host.toList port (ofHost host port).text
  /-- The text belongs to this host and this port only. -/
  injective : ∀ port other port', Bare other.toList →
    (ofHost host port).text = (ofHost other port').text → host = other ∧ port = port'

theorem unambiguous_of_bare {host : String} (bare : Bare host.toList) : Unambiguous host := by
  refine ⟨?_, ?_, ?_, ?_⟩
  · intro port
    rw [ofHost_of_bare bare]
    exact parse_of_variant bare (variant_text host port)
  · intro port t variant
    rw [ofHost_of_bare bare]
    exact parse_of_variant bare variant
  · intro port
    rw [ofHost_of_bare bare]
    exact variant_text host port
  · intro port other port' bare' same
    rw [ofHost_of_bare bare, ofHost_of_bare bare'] at same
    have here := parse_of_variant bare (variant_text host port)
    have there := parse_of_variant bare' (variant_text other port')
    rw [same, there] at here
    injection here with address
    injection address with hosts ports
    exact ⟨hosts.symm, ports.symm⟩

/-- A literal without brackets and without a port, in capitals and among blanks. -/
theorem unambiguous_of_bare_literal :
    Bare "fe80::a".toList ∧ Variant "fe80::a".toList 27017 "\u2003FE80::A\n" ∧
      parse "\u2003FE80::A\n" = .ok ⟨"fe80::a", 27017⟩ ∧ Unambiguous "fe80::a" := by
  have bare : Bare "fe80::a".toList :=
    { nonempty := by simp
      small := by simp
      opening := by simp
      closing := by simp
      trimmed := trim_eq_self_iff.1 (by decide +kernel) }
  have variant : Variant "fe80::a".toList 27017 "\u2003FE80::A\n" :=
    ⟨['\u2003'], _, "FE80::A".toList, ['\n'], by simp, List.forall_mem_singleton.2 (by decide),
      List.forall_mem_singleton.2 (by decide), .plain rfl (.inr (by decide +kernel)),
      by decide +kernel⟩
  exact ⟨bare, variant, by decide +kernel, unambiguous_of_bare bare⟩

end Address

end ClusterClient
