import VendorBuild.Plan
import VendorBuild.Text.Pieces
import VendorBuild.Proofs.Quoting
import Mathlib.Data.List.Basic

/-!
# The lines of a build file

Every line of a rule ends where the rendering says: fixed text is printable, and so is a quoted
value whatever it stands for, so neither holds a line feed. The lines can then be told from the text
again, and the values from the lines.

Results:
* `Quoted.printable_quote`: a quoted value is printable.
* `Rule.textLines_render`: the lines of a rendered rule are the lines of the rule.
* `Rule.render_injective`: the text of a rule tells the rule.
* `render_lines_injective`: the shape of every build file, and what two of them have in common.
-/

namespace VendorBuild

/-- The stretches of a text between line feeds. What a text that ends in a line feed has behind it
is empty, and counts as one of them. -/
def textLines (text : String) : List String := (text.toList.splitOn '\n').map String.ofList

theorem textLines_of_notMem {line : String} (h : '\n' ∉ line.toList) : textLines line = [line] :=
  pieces_of_notMem h

theorem textLines_append (line rest : String) :
    textLines (line ++ "\n" ++ rest) = textLines line ++ textLines rest :=
  pieces_append rfl line rest

theorem textLines_join {lines : List String} (h : ∀ l ∈ lines, '\n' ∉ l.toList) :
    textLines (String.join (lines.map (· ++ "\n"))) = lines ++ [""] := by
  induction lines with
  | nil => exact textLines_of_notMem List.not_mem_nil
  | cons l rest ih =>
    have hl : textLines l = [l] := textLines_of_notMem (h l List.mem_cons_self)
    have hrest := ih fun m hm => h m (List.mem_cons_of_mem _ hm)
    rw [List.map_cons, String.join_cons, textLines_append, hl, hrest]
    rfl

/-! ## Printable texts -/

/-- Whether every character of a text is printable, so that it is one line and shows what it is. -/
def Printable (text : String) : Prop := ∀ c ∈ text.toList, Quoted.isPrintable c = true

instance (text : String) : Decidable (Printable text) :=
  decidable_of_iff (text.toList.all Quoted.isPrintable = true) List.all_eq_true

theorem Printable.append {front back : String} (h : Printable front) (h' : Printable back) :
    Printable (front ++ back) := by
  intro c hc
  rw [String.toList_append, List.mem_append] at hc
  exact hc.elim (h c) (h' c)

theorem Printable.newline_notMem {text : String} (h : Printable text) : '\n' ∉ text.toList := by
  intro hmem
  exact absurd (h _ hmem) (by decide)

namespace Quoted

theorem isPrintable_digitChar : ∀ d < 16, isPrintable (Nat.digitChar d) = true := by
  decide

theorem isPrintable_of_mem_hexDigits {c : Char} {width n : Nat} (h : c ∈ Text.hexDigits width n) :
    isPrintable c = true := by
  induction width generalizing n with
  | zero => cases h
  | succ width ih =>
    rw [Text.hexDigits, List.mem_append, List.mem_singleton] at h
    obtain h | rfl := h
    · exact ih h
    · exact isPrintable_digitChar _ (Nat.mod_lt n (by omega))

theorem isPrintable_of_shortName? {c name : Char} (h : shortName? c = some name) :
    isPrintable name = true := by
  unfold shortName? at h
  split_ifs at h
  all_goals
    cases h
    decide

/-- Whatever a character is, what is written for it is printable. -/
theorem isPrintable_of_mem_escape {c d : Char} (h : d ∈ escape c) : isPrintable d = true := by
  have hnumber : ∀ {mark : Char} {width n : Nat}, isPrintable mark = true →
      d ∈ '\\' :: mark :: Text.hexDigits width n → isPrintable d = true := by
    intro mark width n hmark hd
    rw [List.mem_cons, List.mem_cons] at hd
    obtain rfl | rfl | hd := hd
    · decide
    · exact hmark
    · exact isPrintable_of_mem_hexDigits hd
  unfold escape at h
  split at h
  · rename_i name hname
    rw [List.mem_cons, List.mem_singleton] at h
    obtain rfl | rfl := h
    · decide
    · exact isPrintable_of_shortName? hname
  · split_ifs at h with hprint
    · rwa [List.mem_singleton.1 h]
    · exact hnumber (by decide) h
    · exact hnumber (by decide) h
    · exact hnumber (by decide) h

theorem printable_quote (s : String) : Printable (quote s) := by
  intro c hc
  rw [quote, String.toList_ofList, List.mem_cons, List.mem_append, List.mem_flatMap,
    List.mem_singleton] at hc
  obtain rfl | ⟨d, -, hd⟩ | rfl := hc
  · decide
  · exact isPrintable_of_mem_escape hd
  · decide

end Quoted

namespace Rule

/-- A line that holds a quoted value between printable texts is printable. -/
theorem printable_quoted {before after : String} (hb : Printable before) (ha : Printable after)
    (value : String) : Printable (before ++ Quoted.quote value ++ after) :=
  (hb.append (Quoted.printable_quote value)).append ha

theorem printable_of_mem_depsLines {deps : List String} {line : String}
    (h : line ∈ depsLines deps) : Printable line := by
  unfold depsLines at h
  split at h
  · cases h
  · rw [List.mem_append, List.mem_append, List.mem_singleton, List.mem_singleton,
      List.mem_map] at h
    obtain (rfl | ⟨dep, -, rfl⟩) | rfl := h
    · decide
    · exact printable_quoted (by decide) (by decide) dep
    · decide

theorem printable_of_mem_lines {r : Rule} {line : String} (h : line ∈ r.lines) :
    Printable line := by
  unfold lines at h
  rw [List.mem_append, List.mem_append] at h
  obtain (h | h) | h := h
  · simp only [List.mem_cons, List.not_mem_nil, or_false] at h
    obtain rfl | rfl | rfl | rfl := h
    · decide
    · exact printable_quoted (by decide) (by decide) r.name
    · decide
    · exact printable_quoted (by decide) (by decide) r.importPath
  · exact printable_of_mem_depsLines h
  · simp only [List.mem_cons, List.not_mem_nil, or_false] at h
    obtain rfl | rfl := h
    · decide
    · decide

theorem textLines_render (r : Rule) : textLines r.render = r.lines ++ [""] :=
  textLines_join fun _ h => (printable_of_mem_lines h).newline_notMem

theorem name_mem_textLines (r : Rule) :
    "    name = " ++ Quoted.quote r.name ++ "," ∈ textLines r.render := by
  rw [textLines_render, lines]
  simp

/-! ## What the text tells -/

theorem quoted_injective {before after s t : String}
    (h : before ++ Quoted.quote s ++ after = before ++ Quoted.quote t ++ after) : s = t := by
  rw [String.append_left_inj, String.append_right_inj] at h
  exact Quoted.quote_injective h

/-- The lines of the dependencies tell the dependencies. -/
theorem depsLines_injective {deps deps' : List String} (h : depsLines deps = depsLines deps') :
    deps = deps' := by
  unfold depsLines at h
  split_ifs at h with hnil hnil' hnil'
  · rw [hnil, hnil']
  · cases h
  · cases h
  · rw [List.append_cancel_right_eq, List.append_cancel_left_eq] at h
    exact List.map_injective_iff.2 (fun _ _ => quoted_injective) h

/-- The text of a rule tells the rule. -/
theorem render_injective {r r' : Rule} (h : r.render = r'.render) : r = r' := by
  have hlines : r.lines = r'.lines := by
    have := congrArg textLines h
    rwa [textLines_render, textLines_render, List.append_cancel_right_eq] at this
  rw [lines, lines, List.append_cancel_right_eq] at hlines
  obtain ⟨hfixed, hdeps⟩ := List.append_inj hlines (by simp only [List.length_cons])
  simp only [List.cons.injEq, and_true, true_and] at hfixed
  obtain ⟨name, importPath, deps⟩ := r
  obtain ⟨name', importPath', deps'⟩ := r'
  rw [Rule.mk.injEq]
  exact ⟨quoted_injective hfixed.1, quoted_injective hfixed.2, depsLines_injective hdeps⟩

end Rule

/-- The build file of a package, whatever texts the package and its labels hold, is so many
printable lines, each of them ended by a line feed; and two build files are the same only if the
names of the rules, the import paths and the labels are. -/
theorem render_lines_injective (p : Package) (deps : List String) :
    (∃ lines : List String, lines.length = (if deps = [] then 6 else 8 + deps.length) ∧
      (∀ line ∈ lines, ∀ c ∈ line.toList, c ≠ '\n' ∧ Quoted.isPrintable c = true) ∧
      (Build.mk p deps).rule.render = String.join (lines.map (· ++ "\n"))) ∧
    ∀ (p' : Package) (deps' : List String),
      (Build.mk p deps).rule.render = (Build.mk p' deps').rule.render ↔
        p.targetName = p'.targetName ∧ p.importPath = p'.importPath ∧ deps = deps' := by
  refine ⟨⟨(Build.mk p deps).rule.lines, Rule.length_lines _, ?_, rfl⟩, fun p' deps' => ?_⟩
  · intro line hline c hc
    have hprintable := Rule.printable_of_mem_lines hline
    exact ⟨ne_of_mem_of_not_mem hc hprintable.newline_notMem, hprintable c hc⟩
  · rw [← Rule.mk.injEq]
    exact ⟨Rule.render_injective, congrArg Rule.render⟩

/-- A name with a quote and a line feed in it stays where it belongs. -/
example : (Rule.mk "a\"\nb" "p" []).lines[1]? = some "    name = \"a\\\"\\nb\"," := by
  decide

end VendorBuild
