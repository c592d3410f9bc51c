import ClientBindings.Proofs.Entries
import ClientBindings.Proofs.Naming
import Mathlib.Data.List.Infix

/-!
# Bodies — what the text of a function tells

The body of a function starts with words of its own for each form of decoder, and that of a map
calls the decoder of its keys on a line of its own.  So two functions with one body are of one form,
and two maps with one body decode their keys alike, as long as the names in them keep to one line.

* `Form`, `form_ofType` — the form of a decoder, which is that of its type;
* `Decoder.form_eq_of_text_eq` — a body tells the form;
* `Decoder.keyDecoder_eq_of_text_eq` — the body of a map tells the decoder of its keys.
-/

namespace ClientBindings

/-! ## Texts -/

namespace Text

/-- Of two texts in front of one text, one is in front of the other. -/
theorem prefix_of_append_eq {a b s t : String} (h : a ++ s = b ++ t) :
    a.toList <+: b.toList ∨ b.toList <+: a.toList := by
  have lists : a.toList ++ s.toList = b.toList ++ t.toList := by
    rw [← String.toList_append, ← String.toList_append, h]
  refine List.prefix_or_prefix_of_prefix (List.prefix_append _ s.toList) ?_
  rw [lists]
  exact List.prefix_append _ _

/-- A line break ends the same line in both texts. -/
theorem eq_of_append_break_eq {a b s t : List Char} (ha : '\n' ∉ a) (hb : '\n' ∉ b)
    (h : a ++ '\n' :: s = b ++ '\n' :: t) : a = b := by
  induction a generalizing b with
  | nil =>
    cases b with
    | nil => rfl
    | cons d rest => exact absurd (List.cons.inj h).1 (List.ne_and_not_mem_of_not_mem_cons hb).1
  | cons c rest ih =>
    cases b with
    | nil => exact absurd (List.cons.inj h).1.symm (List.ne_and_not_mem_of_not_mem_cons ha).1
    | cons d others =>
      rcases List.cons.inj h with ⟨hhead, htail⟩
      have tail := ih (List.ne_and_not_mem_of_not_mem_cons ha).2
        (List.ne_and_not_mem_of_not_mem_cons hb).2 htail
      rw [hhead, tail]

end Text

namespace Shared

/-! ## Forms -/

/-- The forms of decoders. -/
inductive Form where
  | scalar
  | reference
  | enumeration
  | set
  | map
  | record
  deriving DecidableEq

namespace Form

/-- The form of the decoder of a type.  An option has that of the type inside it. -/
def ofType : Ty → Form
  | .primitive _ => scalar
  | .ref _ => reference
  | .enum _ _ => enumeration
  | .set _ => set
  | .map _ _ => map
  | .record _ => record
  | .option inner => ofType inner

/-- Words that bodies of a form start with. -/
def heads : Form → List String
  | scalar => ["return (", "return L", "try \x7b"]
  | reference => ["return n"]
  | enumeration => ["try \x7b"]
  | set => ["Object[]"]
  | map => ["var map"]
  | record => ["Map<"]

/-- Heads tell the form, except that a date and an enumeration both start to try. -/
theorem eq_or_of_heads {f g : Form} {a b : String} (ha : a ∈ f.heads) (hb : b ∈ g.heads)
    (h : a.toList <+: b.toList ∨ b.toList <+: a.toList) :
    f = g ∨ f = scalar ∧ g = enumeration ∨ f = enumeration ∧ g = scalar := by
  have all : ∀ a ∈ f.heads, ∀ b ∈ g.heads,
      a.toList <+: b.toList ∨ b.toList <+: a.toList →
        f = g ∨ f = scalar ∧ g = enumeration ∨ f = enumeration ∧ g = scalar := by
    cases f <;> cases g <;> decide
  exact all a ha b hb h

end Form

namespace Decoder

def form : Decoder → Form
  | scalar _ => .scalar
  | reference _ => .reference
  | enumeration _ => .enumeration
  | set _ _ => .set
  | map _ _ _ _ => .map
  | record _ _ _ => .record

theorem exists_text_of_lines {d : Decoder} {head tail : String} {others : List String}
    (h : d.lines = (head ++ tail) :: others) : ∃ rest, d.text = head ++ rest := by
  unfold text Text.joined
  rw [h, String.intercalate_cons_append]
  exact ⟨_, rfl⟩

/-- The body of a decoder starts with a head of its form. -/
theorem exists_head (d : Decoder) : ∃ head ∈ d.form.heads, ∃ rest, d.text = head ++ rest := by
  cases d with
  | scalar s =>
    cases s with
    | string =>
      have split : "return (String) object;" = "return (" ++ "String) object;" := by decide
      exact ⟨"return (", by decide, exists_text_of_lines (congrArg (· :: []) split)⟩
    | secretString =>
      have split : "return (String) object;" = "return (" ++ "String) object;" := by decide
      exact ⟨"return (", by decide, exists_text_of_lines (congrArg (· :: []) split)⟩
    | int =>
      have split : "return Long.valueOf((String) object);" =
          "return L" ++ "ong.valueOf((String) object);" := by decide
      exact ⟨"return L", by decide, exists_text_of_lines (congrArg (· :: []) split)⟩
    | float =>
      have split : "return (Double) object;" = "return (" ++ "Double) object;" := by decide
      exact ⟨"return (", by decide, exists_text_of_lines (congrArg (· :: []) split)⟩
    | bool =>
      have split : "return (Boolean) object;" = "return (" ++ "Boolean) object;" := by decide
      exact ⟨"return (", by decide, exists_text_of_lines (congrArg (· :: []) split)⟩
    | datetime =>
      have split : "try \x7b" = "try \x7b" ++ "" := by decide
      exact ⟨"try \x7b", by decide, exists_text_of_lines (congrArg (· :: _) split)⟩
  | reference name =>
    have split : "return new " = "return n" ++ "ew " := by decide
    have line : "return new " ++ name ++ "((String) object);" =
        "return n" ++ ("ew " ++ name ++ "((String) object);") := by
      rw [split]
      simp only [String.append_assoc]
    exact ⟨"return n", List.mem_cons_self, exists_text_of_lines (congrArg (· :: []) line)⟩
  | enumeration name =>
    have split : "try \x7b" = "try \x7b" ++ "" := by decide
    exact ⟨"try \x7b", List.mem_cons_self, exists_text_of_lines (congrArg (· :: _) split)⟩
  | set item itemDecoder =>
    have split : "Object[] items = (Object[]) object;" =
        "Object[]" ++ " items = (Object[]) object;" := by decide
    exact ⟨"Object[]", List.mem_cons_self, exists_text_of_lines (congrArg (· :: _) split)⟩
  | map key value keyDecoder valueDecoder =>
    have split : "var map = (Map<Object, Object>) object;" =
        "var map" ++ " = (Map<Object, Object>) object;" := by decide
    exact ⟨"var map", List.mem_cons_self, exists_text_of_lines (congrArg (· :: _) split)⟩
  | record name assignments dispatch =>
    have split : "Map<String,Object> map = (Map<String,Object>) object;" =
        "Map<" ++ "String,Object> map = (Map<String,Object>) object;" := by decide
    exact ⟨"Map<", List.mem_cons_self, exists_text_of_lines (congrArg (· :: _) split)⟩

/-- A body ends in its last line, and in the end of the line in front of it. -/
theorem exists_text_end {d : Decoder} {init : List String} {start tail last : String}
    (hinit : init ≠ []) (h : d.lines = init ++ [start ++ tail, last]) :
    ∃ opening, d.text = opening ++ (tail ++ ("\n" ++ last)) := by
  unfold text Text.joined
  rw [h, String.intercalate_append_of_ne_nil hinit (by simp), String.intercalate_cons_cons,
    String.intercalate_singleton]
  refine ⟨"\n".intercalate init ++ "\n" ++ start, ?_⟩
  simp only [String.append_assoc, -String.reduceAppend]

/-- A date and an enumeration are both tried, but their bodies end differently. -/
theorem enumeration_text_ne_datetime (name : String) :
    (enumeration name).text ≠ (scalar .datetime).text := by
  intro same
  have lines : (enumeration name).lines = (enumeration name).lines.take 3 ++
      ["            return " ++ name ++ ("." ++ Ty.unrecognized ++ ";"), "        \x7d"] := by
    rw [← String.append_assoc, ← String.append_assoc]
    rfl
  have dateLines : (scalar .datetime).lines = (scalar .datetime).lines.take 4 ++
      ["            return (new Date((long) (1000*Double.parseDouble((Strin" ++ "g) object))));",
        "        \x7d"] := by
    decide +kernel
  rcases exists_text_end (List.cons_ne_nil _ _) lines with ⟨s, hs⟩
  rcases exists_text_end (List.cons_ne_nil _ _) dateLines with ⟨t, ht⟩
  have lists : s.toList ++ ("." ++ Ty.unrecognized ++ ";" ++ ("\n" ++ "        \x7d")).toList =
      t.toList ++ ("g) object))));" ++ ("\n" ++ "        \x7d")).toList := by
    rw [← String.toList_append, ← String.toList_append, ← hs, ← ht, same]
  -- Both ends have one length, so they would have to be one text.
  have ends := (List.append_inj' lists (by decide)).2
  revert ends
  decide

theorem enumeration_text_ne_scalar (name : String) (s : Scalar) :
    (enumeration name).text ≠ (scalar s).text := by
  have starts : ("try \x7b" : String).toList <+: (enumeration name).text.toList := by
    have split : "try \x7b" = "try \x7b" ++ "" := by decide
    have inText : ∃ rest, (enumeration name).text = "try \x7b" ++ rest :=
      exists_text_of_lines (congrArg (· :: _) split)
    rcases inText with ⟨rest, hrest⟩
    rw [hrest, String.toList_append]
    exact List.prefix_append _ _
  intro same
  cases s with
  | datetime => exact enumeration_text_ne_datetime name same
  | _ =>
    rw [same] at starts
    revert starts
    decide

/-- The body of a function tells its form. -/
theorem form_eq_of_text_eq {d e : Decoder} (h : d.text = e.text) : d.form = e.form := by
  rcases exists_head d with ⟨a, ha, s, hs⟩
  rcases exists_head e with ⟨b, hb, t, ht⟩
  have comparable := Text.prefix_of_append_eq (hs.symm.trans (h.trans ht))
  rcases Form.eq_or_of_heads ha hb comparable with same | ⟨hd, he⟩ | ⟨hd, he⟩
  · exact same
  -- The heads of a date and of an enumeration are alike, their ends are not.
  · cases d with
    | scalar s =>
      cases e with
      | enumeration name => exact absurd h.symm (enumeration_text_ne_scalar name s)
      | _ => simp [form] at he
    | _ => simp [form] at hd
  · cases d with
    | enumeration name =>
      cases e with
      | scalar s => exact absurd h (enumeration_text_ne_scalar name s)
      | _ => simp [form] at he
    | _ => simp [form] at hd

/-! ## Maps -/

/-- What stands in front of the decoder of the keys of a map. -/
def mapOpening (arguments : String) : String :=
  "var map = (Map<Object, Object>) object;" ++ ("\n" ++ ("        var result = new HashMap<" ++
    (arguments ++ (">();" ++ ("\n" ++ ("        for (var entry : map.entrySet()) \x7b" ++ ("\n" ++
      "            var key = ")))))))

theorem exists_text_mapOpening (key value keyDecoder valueDecoder : String) :
    ∃ rest, (map key value keyDecoder valueDecoder).text =
      mapOpening (key ++ (", " ++ value)) ++ (keyDecoder ++ ("(entry.getKey());" ++ ("\n" ++ rest))) := by
  unfold text Text.joined lines mapOpening
  simp only [String.intercalate_cons_cons, String.append_assoc, -String.reduceAppend]
  exact ⟨_, rfl⟩

/-- The body of a map tells the decoder of its keys, which stands on a line of its own. -/
theorem keyDecoder_eq_of_text_eq {key value keyDecoder valueDecoder : String}
    {key' value' keyDecoder' valueDecoder' : String}
    (arguments : key ++ (", " ++ value) = key' ++ (", " ++ value'))
    (hd : '\n' ∉ keyDecoder.toList) (hd' : '\n' ∉ keyDecoder'.toList)
    (h : (map key value keyDecoder valueDecoder).text =
      (map key' value' keyDecoder' valueDecoder').text) : keyDecoder = keyDecoder' := by
  rcases exists_text_mapOpening key value keyDecoder valueDecoder with ⟨s, hs⟩
  rcases exists_text_mapOpening key' value' keyDecoder' valueDecoder' with ⟨t, ht⟩
  rw [hs, ht, arguments, String.append_right_inj] at h
  have lists := congrArg String.toList h
  simp only [String.toList_append] at lists
  have unbroken : '\n' ∉ "(entry.getKey());".toList := by decide
  have lineBreak : "\n".toList = ['\n'] := by decide
  rw [lineBreak, List.singleton_append, List.singleton_append, ← List.append_assoc,
    ← List.append_assoc] at lists
  -- Behind what both bodies start with, the rest of the line is the decoder of the keys.
  have line := Text.eq_of_append_break_eq (List.not_mem_append hd unbroken)
    (List.not_mem_append hd' unbroken) lists
  exact String.toList_inj.mp (List.append_cancel_right line)

end Decoder

/-! ## Forms of types -/

/-- The form of a decoder is that of its type. -/
theorem form_ofType {snapshot : Snapshot} {ty : Ty} {d : Decoder}
    (h : Decoder.ofType snapshot ty = .ok d) : d.form = Form.ofType ty := by
  induction ty with
  | primitive kind =>
    unfold Decoder.ofType at h
    split at h
    · rw [← Except.ok.inj h]
      rfl
    · simp at h
  | enum name values =>
    rw [← Except.ok.inj h]
    rfl
  | ref cls =>
    rw [← Except.ok.inj h]
    rfl
  | set item =>
    rcases Except.bind_eq_ok.mp h with ⟨_, _, h⟩
    rcases Except.bind_eq_ok.mp h with ⟨_, _, h⟩
    rw [← Except.ok.inj h]
    rfl
  | map key value =>
    rcases Except.bind_eq_ok.mp h with ⟨_, _, h⟩
    rcases Except.bind_eq_ok.mp h with ⟨_, _, h⟩
    rcases Except.bind_eq_ok.mp h with ⟨_, _, h⟩
    rcases Except.bind_eq_ok.mp h with ⟨_, _, h⟩
    rw [← Except.ok.inj h]
    rfl
  | record cls =>
    rcases Decoder.ofRecord_eq_ok h with ⟨_, _, _, _, _, rfl, _⟩
    rfl
  | option inner ih => exact ih h

end Shared
end ClientBindings
