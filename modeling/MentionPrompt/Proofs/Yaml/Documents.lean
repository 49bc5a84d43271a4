import MentionPrompt.Config.Yaml
import MentionPrompt.Proofs.Yaml.Parsing
import MentionPrompt.Template.Yaml

/-!
Documents survive being saved and loaded: what is written for a record is read back field by field.
Main statement: `saved_documents_load`, for templates and configurations.
-/

namespace MentionPrompt

namespace Yaml

/-! ### Plain words -/

theorem written_word {text : String} (hne : text.toList ≠ [])
    (h : ∀ c ∈ text.toList, isWordChar c = true) : Written .plain text.toList :=
  .plain (isPlain_of_isWordChar hne h)

theorem isWordChar_of_isDigit {c : Char} (h : c.isDigit = true) : isWordChar c = true := by
  simp [isWordChar, Char.isAlphanum, h]

theorem written_toString (n : Nat) : Written .plain (toString n).toList :=
  written_word (Number.toList_toString_ne_nil n) fun c hc =>
    isWordChar_of_isDigit (Number.isDigit_toString n c hc)

/-- A number in decimal has no sign and no leading zero, so nothing but its digits is read. -/
theorem readUnsigned?_toString (n : Nat) : readUnsigned? (toString n).toList = some n := by
  have hread := Number.read?_toString n
  have hdigits := Number.isDigit_toString n
  have hzero := Number.toList_toString_ne_zero_cons n
  generalize (toString n).toList = s at hread hdigits hzero
  have hnat : readNat? s = some n := by
    unfold readNat?
    split
    · rename_i mark digits
      exact absurd rfl (hzero mark digits)
    · exact hread
  unfold readUnsigned?
  split
  · exact absurd (hdigits '+' (by simp)) (by decide)
  · exact hnat

theorem isNull_toString (n : Nat) : isNull (toString n) = false := by
  have hall : ∀ text ∈ ["", "~", "null", "Null", "NULL"],
      text.toList = [] ∨ text.toList.all Char.isDigit = false := by decide
  rw [isNull, decide_eq_false_iff_not]
  intro hmem
  rcases hall _ hmem with hnil | hdigits
  · exact Number.toList_toString_ne_nil n hnil
  · rw [List.all_eq_true.2 (Number.isDigit_toString n)] at hdigits
    cases hdigits

theorem toWord?_toNat (word : UInt64) : Number.toWord? word.toNat = some word := by
  have hlt : word.toNat < Number.wordLimit := word.toNat_lt
  rw [Number.toWord?, if_pos hlt, UInt64.ofNat_toNat]

/-! ### Records -/

namespace Node

instance (name : String) : Decidable (Scanner.IsKey name) :=
  decidable_of_iff (name.toList ≠ [] ∧ name.toList.all isWordChar = true ∧
    name.toList.length ≤ 1024)
    ⟨fun h => ⟨h.1, List.all_eq_true.1 h.2.1, h.2.2⟩,
      fun h => ⟨h.nonempty, List.all_eq_true.2 h.words, h.short⟩⟩

theorem writable_ofText (text : String) : (Node.ofText text).Writable :=
  .scalar (written_styleOf text)

theorem writable_record {fields : List (String × Node)} (hne : fields ≠ [])
    (hnames : ∀ field ∈ fields, Scanner.IsKey field.1)
    (hvalues : ∀ field ∈ fields, field.2.Writable) : (Node.record fields).Writable := by
  refine .mapping (by simpa using hne) ?_ ?_
  · rw [List.forall_mem_map]
    exact fun field hfield => ⟨field.1, hnames field hfield, rfl⟩
  · rw [List.forall_mem_map]
    exact hvalues

/-- Where every value is read back, so is every list of them. -/
theorem mapM_map_eq_some {α β : Type} {write : α → β} {read : β → Option α}
    (h : ∀ value, read (write value) = some value) (values : List α) :
    (values.map write).mapM read = some values := by
  induction values with
  | nil => rfl
  | cons value rest ih =>
    rw [List.map_cons, List.mapM_cons, h, ih]
    rfl

theorem asEntries?_record (fields : List (String × Node)) :
    (Node.record fields).asEntries? = some fields := by
  rw [Node.record, asEntries?]
  exact mapM_map_eq_some (by intro field; rfl) fields

/-- A record that is written and read back has the fields that it had. -/
theorem asRecord?_record {names : List String} {fields : List (String × Node)}
    (hnames : ∀ field ∈ fields, field.1 ∈ names) (hnodup : (fields.map (·.1)).Nodup) :
    (Node.record fields).asRecord? names = some fields := by
  have hfilter : (fields.filter fun field => names.contains field.1) = fields :=
    List.filter_eq_self.2 fun field hfield => by simpa using hnames field hfield
  simp only [asRecord?, asEntries?_record, Option.bind_eq_bind, Option.bind_some]
  change (if ((fields.filter fun field => names.contains field.1).map (·.1)).Nodup then
    some (fields.filter fun field => names.contains field.1) else none) = some fields
  rw [hfilter, if_pos hnodup]

@[simp] theorem asText?_ofText (text : String) : (Node.ofText text).asText? = some text := rfl

/-- No text is written so that it would stand for an unset value. -/
theorem isNull_of_styleOf {text : String} (h : styleOf text = .plain) : isNull text = false := by
  unfold styleOf at h
  dsimp only at h
  split_ifs at h with _ _ _ hplain
  simp only [isText, Bool.and_eq_true, Bool.not_eq_true'] at hplain
  exact hplain.1.1.1.1

@[simp] theorem asOptional?_ofText (text : String) :
    (Node.ofText text).asOptional? asText? = some (some text) := by
  unfold ofText asOptional?
  split
  · rename_i heq
    injection heq with hstyle htext
    subst htext
    rw [isNull_of_styleOf hstyle]
    rfl
  · rfl

end Node

end Yaml

/-! ### Media and templates -/

open Yaml Yaml.Node

theorem Media.writable_toNode (entry : Media) : entry.toNode.Writable := by
  obtain ⟨mediaId, url, storagePath, displayName⟩ := entry
  refine writable_record (by simp) ?_ ?_
  · cases displayName <;> simp [optionalField] <;> decide
  · cases displayName <;> simp [optionalField, writable_ofText]

/-- An entry is read back; a name that is set stays set, be it empty. -/
theorem Media.ofNode?_toNode (entry : Media) : Media.ofNode? entry.toNode = some entry := by
  obtain ⟨mediaId, url, storagePath, displayName⟩ := entry
  rw [Media.toNode, Media.ofNode?, asRecord?_record]
  · cases displayName <;> simp [optionalField, required?, field?, optional?, nullable?]
  · cases displayName <;> simp [optionalField]
  · cases displayName <;> simp [optionalField]

@[simp] theorem Media.asList?_sequence (entries : List Media) :
    (Node.sequence (entries.map Media.toNode)).asList? Media.ofNode? = some entries := by
  rw [asList?, asItems?, Option.bind_some]
  exact mapM_map_eq_some Media.ofNode?_toNode entries

theorem Template.writable_toNode (template : Template) : template.toNode.Writable := by
  have hmedia : (Node.sequence (template.mediaCatalog.map Media.toNode)).Writable := by
    refine .sequence ?_ ?_
    · rw [List.forall_mem_map]
      exact fun entry _ => ⟨_, _, rfl⟩
    · rw [List.forall_mem_map]
      exact fun entry _ => entry.writable_toNode
  refine writable_record (by simp) ?_ ?_
  · simp only [List.forall_mem_cons]
    decide
  · simp [writable_ofText, hmedia]

theorem Template.ofNode?_toNode (template : Template) :
    Template.ofNode? template.toNode = some template := by
  rw [Template.toNode, Template.ofNode?, asRecord?_record]
  · simp [field?, optional?]
  · simp
  · simp

/-! ### Configurations -/

theorem Config.writable_boolNode (b : Bool) : (Config.boolNode b).Writable := by
  cases b <;> exact .scalar (written_word (by decide) (List.all_eq_true.1 (by decide)))

theorem Config.writable_wordNode (word : UInt64) : (Config.wordNode word).Writable :=
  .scalar (written_toString word.toNat)

@[simp] theorem Config.asBool?_boolNode (b : Bool) : (Config.boolNode b).asBool? = some b := by
  cases b <;> decide

@[simp] theorem Config.asOptional?_wordNode (word : UInt64) :
    (Config.wordNode word).asOptional? asWord? = some (some word) := by
  have hword : (Config.wordNode word).asWord? = some word := by
    rw [Config.wordNode, asWord?, readUnsigned?_toString, Option.bind_some, toWord?_toNat]
  rw [Config.wordNode, asOptional?, isNull_toString, if_neg Bool.false_ne_true]
  exact congrArg (Option.map some) hword

theorem Config.writable_toNode (config : Config) : config.toNode.Writable := by
  obtain ⟨separator, trailing, cap, log⟩ := config
  refine writable_record (by simp) ?_ ?_
  · cases cap <;> cases log <;> simp [optionalField] <;> decide
  · cases cap <;> cases log <;>
      simp [optionalField, writable_ofText, writable_boolNode, writable_wordNode]

theorem Config.ofNode?_toNode (config : Config) : Config.ofNode? config.toNode = some config := by
  obtain ⟨separator, trailing, cap, log⟩ := config
  rw [Config.toNode, Config.ofNode?, asRecord?_record]
  · cases cap <;> cases log <;> simp [optionalField, field?, optional?, nullable?]
  · cases cap <;> cases log <;> simp [optionalField]
  · cases cap <;> cases log <;> simp [optionalField]

/-! ### Documents -/

theorem Template.read?_toYaml (template : Template) :
    read? template.toYaml = some template.toNode := read?_write template.writable_toNode

theorem Config.read?_toYaml (config : Config) :
    read? config.toYaml = some config.toNode := read?_write config.writable_toNode

/-- CORRECT: documents survive being saved and loaded. Every template is read back as it was, with
any texts and names, set or unset; and so is every configuration that has no fault. One that has a
fault is refused with it, as a mistake of the user. -/
theorem saved_documents_load :
    (∀ template : Template, Template.ofYaml template.toYaml = .ok template) ∧
      ∀ config : Config,
        (config.fault? = none → Config.ofYaml config.toYaml = .ok config) ∧
          ∀ fault, config.fault? = some fault →
            Config.ofYaml config.toYaml = .error fault ∧ fault.cls = .user := by
  refine ⟨fun template => ?_, fun config => ⟨fun hfault => ?_, fun fault hfault => ⟨?_, ?_⟩⟩⟩
  · rw [Template.ofYaml, template.read?_toYaml, Option.bind_some, template.ofNode?_toNode]
  · rw [Config.ofYaml, config.read?_toYaml, Option.bind_some, config.ofNode?_toNode]
    simp [Config.checked, hfault]
  · rw [Config.ofYaml, config.read?_toYaml, Option.bind_some, config.ofNode?_toNode]
    simp [Config.checked, hfault]
  · unfold Config.fault? at hfault
    split_ifs at hfault <;> cases hfault <;> rfl

/-- A text of two lines comes back, as do a name that is unset, one that is empty and one that is
blank; so do texts that look like other values. A separator that is empty is refused. -/
theorem saved_documents_load_of_hard_texts :
    let template : Template :=
      { canonicalText := "Look at @\x7bref:a\x7d:\n  - null\n",
        mediaCatalog := [{ mediaId := "a", url := "~" },
          { mediaId := "true", url := "1e3", displayName := some "" },
          { mediaId := "0x1F", url := "# none", displayName := some " " }] }
    let config : Config :=
      { multiSelectSeparator := "\n", maxCandidates := some 20, eventsLog := some "null" }
    let faulty : Config := { multiSelectSeparator := "" }
    Template.ofYaml template.toYaml = .ok template ∧
      (config.fault? = none ∧ Config.ofYaml config.toYaml = .ok config) ∧
        (faulty.fault? = some .emptySeparator ∧
          Config.ofYaml faulty.toYaml = .error .emptySeparator) := by
  intro template config faulty
  have hvalid : config.fault? = none := by decide
  have hfaulty : faulty.fault? = some .emptySeparator := by decide
  exact ⟨saved_documents_load.1 template,
    ⟨hvalid, (saved_documents_load.2 config).1 hvalid⟩,
    ⟨hfaulty, ((saved_documents_load.2 faulty).2 _ hfaulty).1⟩⟩

end MentionPrompt
