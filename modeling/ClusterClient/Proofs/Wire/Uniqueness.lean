import ClusterClient.Proofs.Wire.Reply
import ClusterClient.Proofs.Wire.Request

/-!
# Requests can be told apart

The fields of a request follow each other without separators. Each of them shows where it ends: a
number by its width, a text by the null byte after it, a document by its length in front. So there
is one way to read a frame, and two requests with the same frame differ at most in what is not sent,
the address of a cursor.

    write is Delimited on P, never empty → as.flatMap write = bs.flatMap write → as = bs
                                                                                 (Delimited.flatMap)
    r.encode … = ok frame → r'.encode … = ok frame' →
      (frame = frame' ↔ the numbers are equal and r.Alike r')                 (encode_eq_encode_iff)
-/

namespace ClusterClient

/-! ## Fields that show where they end -/

/-- Of two values with `P` that are written with something behind them, both the values and what is
behind them are equal if the bytes are. -/
def Delimited {α : Type} (P : α → Prop) (write : α → Bytes) : Prop :=
  ∀ ⦃a b : α⦄, P a → P b → ∀ ⦃xs ys : Bytes⦄, write a ++ xs = write b ++ ys → a = b ∧ xs = ys

theorem Delimited.flatMap {α : Type} {P : α → Prop} {write : α → Bytes} (h : Delimited P write)
    (some : ∀ a, P a → write a ≠ []) {as bs : List α} (has : ∀ a ∈ as, P a) (hbs : ∀ b ∈ bs, P b)
    (same : as.flatMap write = bs.flatMap write) : as = bs := by
  induction as generalizing bs with
  | nil =>
    cases bs with
    | nil => rfl
    | cons b bs =>
      rw [List.flatMap_nil, List.flatMap_cons, eq_comm, List.append_eq_nil_iff] at same
      exact absurd same.1 (some b (hbs b List.mem_cons_self))
  | cons a as ih =>
    rw [List.forall_mem_cons] at has
    cases bs with
    | nil =>
      rw [List.flatMap_nil, List.flatMap_cons, List.append_eq_nil_iff] at same
      exact absurd same.1 (some a has.1)
    | cons b bs =>
      rw [List.forall_mem_cons] at hbs
      rw [List.flatMap_cons, List.flatMap_cons] at same
      obtain ⟨rfl, rest⟩ := h has.1 hbs.1 same
      rw [ih has.2 hbs.2 rest]

/-- What a reader gets back is delimited, if it is always of one width. -/
theorem delimited_of_read {α : Type} {write : α → Bytes} {read : Bytes → α} {width : Nat}
    (read_append : ∀ a rest, read (write a ++ rest) = a) (length : ∀ a, (write a).length = width) :
    Delimited (fun _ => True) write := by
  intro a b _ _ xs ys same
  refine ⟨?_, (List.append_inj same ((length a).trans (length b).symm)).2⟩
  rw [← read_append a xs, same, read_append]

namespace Bytes

theorem delimited_ofUInt32 : Delimited (fun _ => True) ofUInt32 :=
  delimited_of_read readUInt32_append length_ofUInt32

theorem delimited_ofInt32 : Delimited (fun _ => True) ofInt32 :=
  delimited_of_read readInt32_append length_ofInt32

theorem delimited_ofInt64 : Delimited (fun _ => True) ofInt64 :=
  delimited_of_read readInt64_append length_ofInt64

/-! ## Texts -/

theorem eq_null_of_mem_utf8EncodeChar {c : Char} (h : 0 ∈ String.utf8EncodeChar c) :
    c = '\x00' := by
  have zero_iff : ∀ n : Nat, (0 : UInt8) = UInt8.ofNat n ↔ n % 256 = 0 := by
    intro n
    rw [← UInt8.toNat_inj, UInt8.toNat_ofNat']
    exact eq_comm
  -- all bytes but the only one of a short character have their highest bit set
  unfold String.utf8EncodeChar at h
  simp only at h
  split at h
  · simp only [List.mem_singleton, zero_iff] at h
    apply Char.ext
    apply UInt32.toNat_inj.1
    show c.val.toNat = 0
    omega
  · exfalso
    split at h
    · simp only [List.mem_cons, List.not_mem_nil, or_false, zero_iff] at h
      omega
    · split at h
      all_goals
        simp only [List.mem_cons, List.not_mem_nil, or_false, zero_iff] at h
        omega

theorem zero_not_mem_ofText {text : String} (h : '\x00' ∉ text.toList) : 0 ∉ ofText text := by
  intro mem
  obtain ⟨c, hc, zero⟩ := List.mem_flatMap.1 mem
  exact h (eq_null_of_mem_utf8EncodeChar zero ▸ hc)

theorem ofText_injective {s t : String} (h : ofText s = ofText t) : s = t := by
  apply String.toByteArray_inj.1
  rw [← String.utf8Encode_toList, ← String.utf8Encode_toList]
  exact congrArg List.toByteArray h

end Bytes

theorem Request.delimited_terminated :
    Delimited (fun text : String => '\x00' ∉ text.toList) terminated := by
  intro s t hs ht xs ys same
  simp only [terminated, List.append_assoc, List.singleton_append] at same
  have upTo {text : String} (h : '\x00' ∉ text.toList) (rest : Bytes) :
      (Bytes.ofText text ++ 0 :: rest).takeWhile (· != 0) = Bytes.ofText text := by
    have := Bytes.zero_not_mem_ofText h
    rw [List.takeWhile_append_of_pos, List.takeWhile_cons_of_neg, List.append_nil]
    · decide
    · intro b hb
      rw [bne_iff_ne]
      exact fun zero => this (zero ▸ hb)
  have texts := congrArg (List.takeWhile (· != 0)) same
  rw [upTo hs, upTo ht] at texts
  rw [texts, List.append_cancel_left_eq, List.cons.injEq] at same
  exact ⟨Bytes.ofText_injective texts, same.2⟩

/-! ## Documents -/

namespace Document

/-- The document tells its own length. -/
def SelfDelimiting (d : Bytes) : Prop := minSize ≤ d.length ∧ statedLength d = d.length

theorem statedLength_append {d : Bytes} (h : minSize ≤ d.length) (rest : Bytes) :
    statedLength (d ++ rest) = statedLength d := by
  rw [statedLength, Bytes.readInt32_append_of_le (Nat.le_of_succ_le h), statedLength]

theorem delimited_selfDelimiting : Delimited SelfDelimiting id := by
  rintro d e ⟨hd, told⟩ ⟨he, told'⟩ xs ys same
  have lengths := congrArg statedLength same
  simp only [id] at same lengths
  rw [statedLength_append hd, statedLength_append he, told, told'] at lengths
  exact List.append_inj same (Int.ofNat_inj.1 lengths)

theorem SelfDelimiting.ne_nil {d : Bytes} (h : SelfDelimiting d) : d ≠ [] := by
  rintro rfl
  exact absurd h.1 (by decide)

end Document

/-! ## Requests -/

theorem OpCode.code_injective {op op' : OpCode} (h : op.code = op'.code) : op = op' := by
  rw [← Option.some_inj, ← ofCode?_code op, h, ofCode?_code]

namespace Request

open Document

/-- Two requests that differ at most in the address of their cursor. -/
inductive Alike : Request → Request → Prop
  | refl (r : Request) : Alike r r
  | getMore (target : String) (limit : Int32) {cursor cursor' : Cursor}
      (same : cursor.id = cursor'.id) :
      Alike (getMore target limit cursor) (getMore target limit cursor')

/-- What makes the fields of a request show where they end. -/
structure Readable (r : Request) : Prop where
  target : ∀ target, r.target? = some target → '\x00' ∉ target.toList
  documents : ∀ d ∈ r.documents, SelfDelimiting d

variable {r r' : Request}

theorem switches_injective {a b a' b' : Bool} (h : switches a b = switches a' b') :
    a = a' ∧ b = b' := by
  revert h
  cases a <;> cases b <;> cases a' <;> cases b' <;> decide

/-- The documents at the end of a body can be told apart. -/
theorem eq_of_flatten_eq {ds es : List Bytes} (hds : ∀ d ∈ ds, SelfDelimiting d)
    (hes : ∀ e ∈ es, SelfDelimiting e) (same : ds.flatten = es.flatten) : ds = es := by
  refine delimited_selfDelimiting.flatMap (fun d h => h.ne_nil) hds hes ?_
  rwa [List.flatMap_id, List.flatMap_id]

theorem append_getD_eq_flatten (document : Bytes) (fields : Option Bytes) :
    document ++ fields.getD [] = (document :: fields.toList).flatten := by
  cases fields <;> simp

theorem alike_of_body_eq (h : r.Readable) (h' : r'.Readable) (code : r.opCode = r'.opCode)
    (same : r.body = r'.body) : r.Alike r' := by
  cases r with
  | query target flags skip limit document fields =>
    cases r' with
    | query target' flags' skip' limit' document' fields' =>
      simp only [body, List.append_assoc] at same
      obtain ⟨bits, same₁⟩ := Bytes.delimited_ofUInt32 trivial trivial same
      obtain ⟨rfl, same₂⟩ := delimited_terminated (h.target _ rfl) (h'.target _ rfl) same₁
      obtain ⟨rfl, same₃⟩ := Bytes.delimited_ofInt32 trivial trivial same₂
      obtain ⟨rfl, same₄⟩ := Bytes.delimited_ofInt32 trivial trivial same₃
      rw [append_getD_eq_flatten, append_getD_eq_flatten] at same₄
      obtain ⟨rfl, rest⟩ := List.cons.inj (eq_of_flatten_eq h.documents h'.documents same₄)
      obtain rfl : fields = fields' := by
        cases fields <;> cases fields' <;> simp_all
      obtain rfl : flags = flags' := congrArg QueryFlags.mk bits
      exact .refl _
    | _ => cases code
  | getMore target limit cursor =>
    cases r' with
    | getMore target' limit' cursor' =>
      simp only [body, List.append_assoc] at same
      obtain ⟨-, same₁⟩ := Bytes.delimited_ofInt32 trivial trivial same
      obtain ⟨rfl, same₂⟩ := delimited_terminated (h.target _ rfl) (h'.target _ rfl) same₁
      obtain ⟨rfl, same₃⟩ := Bytes.delimited_ofInt32 trivial trivial same₂
      rw [← List.append_nil (Bytes.ofInt64 cursor.id), ← List.append_nil (Bytes.ofInt64 _)] at same₃
      exact .getMore target limit (Bytes.delimited_ofInt64 trivial trivial same₃).1
    | _ => cases code
  | insert target continueOnError documents =>
    cases r' with
    | insert target' continueOnError' documents' =>
      simp only [body, List.append_assoc] at same
      obtain ⟨options, same₁⟩ := Bytes.delimited_ofInt32 trivial trivial same
      obtain ⟨rfl, same₂⟩ := delimited_terminated (h.target _ rfl) (h'.target _ rfl) same₁
      obtain rfl : documents = documents' := eq_of_flatten_eq h.documents h'.documents same₂
      obtain ⟨rfl, -⟩ := switches_injective options
      exact .refl _
    | _ => cases code
  | update target upsert multi selector change =>
    cases r' with
    | update target' upsert' multi' selector' change' =>
      simp only [body, List.append_assoc] at same
      obtain ⟨-, same₁⟩ := Bytes.delimited_ofInt32 trivial trivial same
      obtain ⟨rfl, same₂⟩ := delimited_terminated (h.target _ rfl) (h'.target _ rfl) same₁
      obtain ⟨options, same₃⟩ := Bytes.delimited_ofInt32 trivial trivial same₂
      obtain ⟨rfl, same₄⟩ := delimited_selfDelimiting (h.documents _ (by simp [documents]))
        (h'.documents _ (by simp [documents])) same₃
      obtain ⟨rfl, rfl⟩ := switches_injective options
      obtain rfl : change = change' := same₄
      exact .refl _
    | _ => cases code
  | delete target single selector =>
    cases r' with
    | delete target' single' selector' =>
      simp only [body, List.append_assoc] at same
      obtain ⟨-, same₁⟩ := Bytes.delimited_ofInt32 trivial trivial same
      obtain ⟨rfl, same₂⟩ := delimited_terminated (h.target _ rfl) (h'.target _ rfl) same₁
      obtain ⟨options, rfl⟩ := Bytes.delimited_ofInt32 trivial trivial same₂
      obtain ⟨rfl, -⟩ := switches_injective options
      exact .refl _
    | _ => cases code
  | killCursors ids =>
    cases r' with
    | killCursors ids' =>
      simp only [body, List.append_assoc] at same
      -- the ids take up the rest of the frame, so their number is not needed to read them
      obtain ⟨-, same₁⟩ := Bytes.delimited_ofInt32 trivial trivial same
      obtain ⟨-, same₂⟩ := Bytes.delimited_ofInt32 trivial trivial same₁
      have some : ∀ id : Int64, True → Bytes.ofInt64 id ≠ [] := by
        intro id _ none
        simpa [none] using Bytes.length_ofInt64 id
      obtain rfl := Bytes.delimited_ofInt64.flatMap some (by simp) (by simp) same₂
      exact .refl _
    | _ => cases code

theorem Alike.frame_eq (h : r.Alike r') : r.body = r'.body ∧ r.opCode = r'.opCode := by
  cases h with
  | refl => exact ⟨rfl, rfl⟩
  | getMore target limit same => exact ⟨by simp only [body, same], rfl⟩

/-- Requests whose documents tell their lengths have the same frame only if they are the same, and
have the same number; the address of a cursor is all that the frame does not tell. -/
theorem encode_eq_encode_iff {id id' : Int32} {settings settings' : MessageSettings}
    {frame frame' : Bytes} (documents : ∀ d ∈ r.documents, SelfDelimiting d)
    (documents' : ∀ d ∈ r'.documents, SelfDelimiting d) (h : r.encode id settings = .ok frame)
    (h' : r'.encode id' settings' = .ok frame') : frame = frame' ↔ id = id' ∧ r.Alike r' := by
  obtain ⟨target, -, -, -, rfl⟩ := encode_eq_ok_iff.1 h
  obtain ⟨target', -, -, -, rfl⟩ := encode_eq_ok_iff.1 h'
  constructor
  · intro same
    obtain ⟨headers, bodies⟩ := List.append_inj same (by simp)
    simp only [Header.bytes, List.append_assoc] at headers
    obtain ⟨-, headers⟩ := Bytes.delimited_ofInt32 trivial trivial headers
    obtain ⟨ids, headers⟩ := Bytes.delimited_ofInt32 trivial trivial headers
    obtain ⟨-, headers⟩ := Bytes.delimited_ofInt32 trivial trivial headers
    rw [← List.append_nil (Bytes.ofInt32 _),
      ← List.append_nil (Bytes.ofInt32 (header r' _).opCode.code)] at headers
    have codes := OpCode.code_injective (Bytes.delimited_ofInt32 trivial trivial headers).1
    exact ⟨ids, alike_of_body_eq ⟨checkTarget_eq_ok_iff.1 target, documents⟩
      ⟨checkTarget_eq_ok_iff.1 target', documents'⟩ codes bodies⟩
  · rintro ⟨rfl, alike⟩
    rw [header, header, alike.frame_eq.1, alike.frame_eq.2]

/-- An insert of two documents and one of the second of them alone; a cursor on one server and a
cursor of the same number on another. -/
theorem encode_eq_encode_iff_insert :
    let d : Bytes := [5, 0, 0, 0, 0]
    let e : Bytes := [6, 0, 0, 0, 1, 0]
    let inserts (documents : List Bytes) : Request := insert "db.c" true documents
    let more (host : String) : Request := getMore "db.c" 2 ⟨9, ⟨host, 1⟩, by decide⟩
    (∃ frame frame', (inserts [d, e]).encode 7 {} = .ok frame ∧
      (inserts [e]).encode 7 {} = .ok frame' ∧
        (frame = frame' ↔ (7 : Int32) = 7 ∧ (inserts [d, e]).Alike (inserts [e]))) ∧
      ∃ frame frame', (more "a").encode 7 {} = .ok frame ∧ (more "b").encode 7 {} = .ok frame' ∧
        (frame = frame' ↔ (7 : Int32) = 7 ∧ (more "a").Alike (more "b")) := by
  intro d e inserts more
  have one : SelfDelimiting d := ⟨by decide, by decide⟩
  have two : SelfDelimiting e := ⟨by decide, by decide⟩
  have both : ∀ x ∈ (inserts [d, e]).documents, SelfDelimiting x := by
    simp [inserts, documents, one, two]
  have last : ∀ x ∈ (inserts [e]).documents, SelfDelimiting x := by
    simp [inserts, documents, two]
  have nothing (host : String) : ∀ x ∈ (more host).documents, SelfDelimiting x := by
    simp [more, documents]
  have encoded₁ : (inserts [d, e]).encode 7 {} = .ok _ := rfl
  have encoded₂ : (inserts [e]).encode 7 {} = .ok _ := rfl
  have encoded₃ : (more "a").encode 7 {} = .ok _ := rfl
  have encoded₄ : (more "b").encode 7 {} = .ok _ := rfl
  exact ⟨⟨_, _, encoded₁, encoded₂, encode_eq_encode_iff both last encoded₁ encoded₂⟩, _, _,
    encoded₃, encoded₄, encode_eq_encode_iff (nothing "a") (nothing "b") encoded₃ encoded₄⟩

end Request

end ClusterClient
