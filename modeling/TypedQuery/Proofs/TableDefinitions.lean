import TypedQuery.Proofs.ColumnDefinitions
import TypedQuery.Proofs.DecodedRows
import TypedQuery.Proofs.InsertedRecords

/-!
# Table definitions

A table can be defined when it has columns and each foreign key among them refers to a
table with a primary key.  The names in the text of the definition are then those of the
table, of each column, and of what a foreign key refers to; and between the parentheses
there is one definition for each column, apart at the commas that stand neither in a name
nor in parentheses of their own.
-/

namespace TypedQuery

namespace ColumnDef

variable {column : ColumnDef} {target : Schema}

/-! ## Foreign keys -/

def Targets (column : ColumnDef) (target : Schema) : Prop :=
  column.type = .foreignKey target.reference

def IsFirstKey (target : Schema) (key : ColumnDef) : Prop :=
  ∃ before after, target.columns = before ++ key :: after ∧
    key.constraints.primaryKey = true ∧
    ∀ earlier ∈ before, earlier.constraints.primaryKey ≠ true

theorem primaryKey?_eq_some_iff {key : ColumnDef} :
    target.primaryKey? = some key ↔ IsFirstKey target key := by
  rw [Schema.primaryKey?, List.find?_eq_some_iff_append]
  constructor
  · rintro ⟨hkey, before, after, hcolumns, hbefore⟩
    refine ⟨before, after, hcolumns, hkey, ?_⟩
    intro earlier hearlier
    rw [← Bool.eq_false_iff, ← Bool.not_eq_true']
    exact hbefore earlier hearlier
  · rintro ⟨before, after, hcolumns, hkey, hbefore⟩
    refine ⟨hkey, before, after, hcolumns, ?_⟩
    intro earlier hearlier
    rw [Bool.not_eq_true', Bool.eq_false_iff]
    exact hbefore earlier hearlier

theorem primaryKey?_eq_none_iff :
    target.primaryKey? = none ↔
      ∀ key ∈ target.columns, key.constraints.primaryKey ≠ true := by
  rw [Schema.primaryKey?, List.find?_eq_none]

/-- Every foreign key refers to some table. -/
theorem exists_targets {reference : Reference} (h : column.type = .foreignKey reference) :
    ∃ target, column.Targets target := by
  obtain ⟨table, key⟩ := reference
  cases key with
  | none => exact ⟨⟨table, []⟩, h⟩
  | some key => exact ⟨⟨table, [⟨key, .text, { primaryKey := true }⟩]⟩, h⟩

/-- All tables that the column refers to have a primary key. -/
def HasKeys (column : ColumnDef) : Prop :=
  ∀ target, column.Targets target →
    ∃ key ∈ target.columns, key.constraints.primaryKey = true

theorem referenceClauses_of_targets_some (h : column.Targets target) {key : ColumnDef}
    (hkey : target.primaryKey? = some key) :
    column.referenceClauses = .ok [.references target.table key.name] := by
  rw [referenceClauses, h, Schema.reference, hkey]
  rfl

theorem referenceClauses_of_targets_none (h : column.Targets target)
    (hkey : target.primaryKey? = none) :
    column.referenceClauses = .error (column.danglingReference target.table) := by
  rw [referenceClauses, h, Schema.reference, hkey]
  rfl

theorem referenceClauses_of_not_targets (h : ∀ target, ¬column.Targets target) :
    column.referenceClauses = .ok [] := by
  unfold referenceClauses
  split
  · rename_i htype
    obtain ⟨target, htarget⟩ := exists_targets htype
    exact absurd htarget (h target)
  · rename_i htype
    obtain ⟨target, htarget⟩ := exists_targets htype
    exact absurd htarget (h target)
  · rfl

/-- The names of the table that a column refers to and of its key; none if it refers to
no table. -/
inductive Refers (column : ColumnDef) : List String → Prop where
  | nowhere (h : ∀ target, ¬column.Targets target) : Refers column []
  | to {target : Schema} {key : ColumnDef} (h : column.Targets target)
      (hkey : IsFirstKey target key) : Refers column [target.table, key.name]

/-- A column refers to no table, or to one with a primary key, or to one without. -/
theorem references_cases (column : ColumnDef) :
    (∀ target, ¬column.Targets target) ∨
    (∃ target key, column.Targets target ∧ target.primaryKey? = some key) ∨
    ∃ target, column.Targets target ∧ target.primaryKey? = none := by
  by_cases hnone : ∀ target, ¬column.Targets target
  · exact .inl hnone
  · obtain ⟨target, htarget⟩ := not_forall_not.mp hnone
    cases hkey : target.primaryKey? with
    | none => exact .inr (.inr ⟨target, htarget, hkey⟩)
    | some key => exact .inr (.inl ⟨target, key, htarget, hkey⟩)

theorem hasKeys_of_referenceClauses {references : List ColumnClause}
    (h : column.referenceClauses = .ok references) : column.HasKeys := by
  intro target htarget
  cases hkey : target.primaryKey? with
  | none =>
      rw [referenceClauses_of_targets_none htarget hkey] at h
      cases h
  | some key =>
      obtain ⟨before, after, hcolumns, hprimary, -⟩ := primaryKey?_eq_some_iff.mp hkey
      refine ⟨key, ?_, hprimary⟩
      rw [hcolumns]
      exact List.mem_append_right before List.mem_cons_self

theorem exists_referenceClauses_iff :
    (∃ references, column.referenceClauses = .ok references) ↔ column.HasKeys := by
  constructor
  · rintro ⟨references, h⟩
    exact hasKeys_of_referenceClauses h
  · intro hkeys
    rcases column.references_cases with hnone | ⟨target, key, htarget, hkey⟩ |
      ⟨target, htarget, hnone⟩
    · exact ⟨_, referenceClauses_of_not_targets hnone⟩
    · exact ⟨_, referenceClauses_of_targets_some htarget hkey⟩
    · obtain ⟨key, hmem, hprimary⟩ := hkeys target htarget
      exact absurd hprimary (primaryKey?_eq_none_iff.mp hnone key hmem)

/-- The column refers to a table without a primary key, as the error says. -/
def Dangles (column : ColumnDef) (error : Error) : Prop :=
  ∃ target, column.Targets target ∧
    (∀ key ∈ target.columns, key.constraints.primaryKey ≠ true) ∧
    error = column.danglingReference target.table

theorem referenceClauses_eq_error_iff {error : Error} :
    column.referenceClauses = .error error ↔ column.Dangles error := by
  constructor
  · intro h
    rcases column.references_cases with hnone | ⟨target, key, htarget, hkey⟩ |
      ⟨target, htarget, hnone⟩
    · rw [referenceClauses_of_not_targets hnone] at h
      cases h
    · rw [referenceClauses_of_targets_some htarget hkey] at h
      cases h
    · rw [referenceClauses_of_targets_none htarget hnone] at h
      exact ⟨target, htarget, primaryKey?_eq_none_iff.mp hnone, (Except.error.inj h).symm⟩
  · rintro ⟨target, htarget, hnone, rfl⟩
    exact referenceClauses_of_targets_none htarget (primaryKey?_eq_none_iff.mpr hnone)

theorem exists_fragment_iff {dialect : Dialect} :
    (∃ fragment, column.fragment dialect = .ok fragment) ↔ column.HasKeys := by
  rw [← exists_referenceClauses_iff]
  constructor
  · rintro ⟨fragment, hfragment⟩
    obtain ⟨clauses, hclauses, -⟩ := fragment_eq_ok_iff.mp hfragment
    obtain ⟨references, hreferences, -⟩ := clauses_eq_ok_iff.mp hclauses
    exact ⟨references, hreferences⟩
  · rintro ⟨references, hreferences⟩
    have hclauses : column.clauses dialect = .ok _ :=
      clauses_eq_ok_iff.mpr ⟨references, hreferences, rfl⟩
    exact ⟨_, fragment_eq_ok_iff.mpr ⟨_, hclauses, rfl⟩⟩

theorem fragment_eq_error_iff {dialect : Dialect} {error : Error} :
    column.fragment dialect = .error error ↔ column.Dangles error := by
  rw [← referenceClauses_eq_error_iff, ColumnDef.fragment, bind_eq_error_iff, clauses,
    bind_eq_error_iff]
  constructor
  · rintro ((h | ⟨_, _, h⟩) | ⟨_, _, h⟩)
    · exact h
    · cases h
    · cases h
  · intro h
    exact .inl (.inl h)

/-! ## Names in a column -/

/-- The name of a column that bounds its length. -/
def lengthNames (column : ColumnDef) : List String :=
  if column.type.hasLength = true ∧ column.constraints.maxLength.isSome = true then
    [column.name]
  else []

theorem names_foldl (clauses : List ColumnClause) (first : Fragment) :
    (clauses.foldl (fun sql clause => sql ++ clause.fragment) first).names =
      first.names ++ clauses.flatMap fun clause => clause.fragment.names := by
  induction clauses generalizing first with
  | nil => exact (List.append_nil _).symm
  | cons clause clauses ih =>
      rw [List.foldl_cons, ih, Fragment.names_append, List.flatMap_cons, List.append_assoc]

theorem names_keyClauses (column : ColumnDef) (dialect : Dialect) :
    (column.keyClauses dialect).flatMap (fun clause => clause.fragment.names) = [] := by
  rw [List.flatMap_eq_nil_iff]
  intro clause hclause
  rw [mem_keyClauses_iff] at hclause
  split at hclause
  · rcases hclause with rfl | ⟨-, rfl⟩ <;> rfl
  · rcases hclause with ⟨-, rfl⟩ | ⟨-, rfl⟩ <;> rfl

theorem names_lengthClauses (column : ColumnDef) :
    column.lengthClauses.flatMap (fun clause => clause.fragment.names) = column.lengthNames := by
  unfold lengthClauses lengthNames
  cases column.constraints.maxLength with
  | none => simp
  | some max =>
      by_cases hlength : column.type.hasLength = true
      · simp [hlength, ColumnClause.fragment]
      · simp [hlength]

theorem refers_of_referenceClauses {references : List ColumnClause}
    (h : column.referenceClauses = .ok references) :
    column.Refers (references.flatMap fun clause => clause.fragment.names) := by
  rcases column.references_cases with hnone | ⟨target, key, htarget, hkey⟩ |
    ⟨target, htarget, hnone⟩
  · rw [referenceClauses_of_not_targets hnone] at h
    obtain rfl := Except.ok.inj h
    exact .nowhere hnone
  · rw [referenceClauses_of_targets_some htarget hkey] at h
    obtain rfl := Except.ok.inj h
    exact .to htarget (primaryKey?_eq_some_iff.mp hkey)
  · rw [referenceClauses_of_targets_none htarget hnone] at h
    cases h

/-- The names in the text of a column: its own, again if it bounds its length, and what it
refers to. -/
def WritesNames (column : ColumnDef) (names : List String) : Prop :=
  ∃ referred, column.Refers referred ∧
    names = column.name :: (column.lengthNames ++ referred)

theorem writesNames_of_fragment {dialect : Dialect} {fragment : Fragment}
    (h : column.fragment dialect = .ok fragment) : column.WritesNames fragment.names := by
  obtain ⟨clauses, hclauses, rfl⟩ := fragment_eq_ok_iff.mp h
  obtain ⟨references, hreferences, rfl⟩ := clauses_eq_ok_iff.mp hclauses
  refine ⟨_, refers_of_referenceClauses hreferences, ?_⟩
  rw [names_foldl, List.flatMap_append, List.flatMap_append, names_keyClauses,
    names_lengthClauses, List.nil_append]
  rfl

end ColumnDef

namespace Token

/-! ## Commas outside parentheses -/

/-- How many parentheses are open after a token. -/
def nest (depth : Nat) : Token → Nat
  | mark '(' => depth + 1
  | mark ')' => depth - 1
  | _ => depth

/-- The tokens are split at the commas that stand in no parentheses. -/
def splitAtCommas (depth : Nat) : List Token → List (List Token)
  | [] => [[]]
  | token :: rest =>
    if token = .mark ',' ∧ depth = 0 then [] :: splitAtCommas 0 rest
    else (splitAtCommas (nest depth token) rest).modifyHead (token :: ·)

/-- The tokens have no comma, and they close the parentheses that they open. -/
structure IsPiece (tokens : List Token) : Prop where
  comma_not_mem : .mark ',' ∉ tokens
  nest_eq : ∀ depth, tokens.foldl nest depth = depth

theorem splitAtCommas_append {tokens : List Token} (h : .mark ',' ∉ tokens) (depth : Nat)
    (rest : List Token) :
    splitAtCommas depth (tokens ++ rest) =
      (splitAtCommas (tokens.foldl nest depth) rest).modifyHead (tokens ++ ·) := by
  induction tokens generalizing depth with
  | nil =>
      rw [List.nil_append, List.foldl_nil]
      exact (congrFun List.modifyHead_id _).symm
  | cons token tokens ih =>
      rw [List.mem_cons, not_or] at h
      obtain ⟨htoken, htokens⟩ := h
      have hother : ¬(token = .mark ',' ∧ depth = 0) := fun hcomma => htoken hcomma.1.symm
      rw [List.cons_append, splitAtCommas, if_neg hother, ih htokens, List.foldl_cons,
        List.modifyHead_modifyHead]
      rfl

/-- Pieces are found again where commas are put between them. -/
theorem splitAtCommas_intercalate {pieces : List (List Token)} (hne : pieces ≠ [])
    (h : ∀ piece ∈ pieces, IsPiece piece) :
    splitAtCommas 0 ([.mark ','].intercalate pieces) = pieces := by
  induction pieces with
  | nil => exact absurd rfl hne
  | cons piece pieces ih =>
      obtain ⟨hpiece, hpieces⟩ := List.forall_mem_cons.mp h
      cases pieces with
      | nil =>
          have hlast := splitAtCommas_append hpiece.comma_not_mem 0 []
          rw [List.append_nil] at hlast
          rw [List.intercalate_singleton, hlast, splitAtCommas, List.modifyHead_cons,
            List.append_nil]
      | cons next pieces =>
          rw [List.intercalate_cons_cons, List.append_assoc,
            splitAtCommas_append hpiece.comma_not_mem, hpiece.nest_eq, List.singleton_append,
            splitAtCommas, if_pos ⟨rfl, rfl⟩, ih (List.cons_ne_nil _ _) hpieces,
            List.modifyHead_cons, List.append_nil]

theorem isPiece_append {first second : List Token} (hfirst : IsPiece first)
    (hsecond : IsPiece second) : IsPiece (first ++ second) := by
  refine ⟨?_, ?_⟩
  · rw [List.mem_append, not_or]
    exact ⟨hfirst.comma_not_mem, hsecond.comma_not_mem⟩
  · intro depth
    rw [List.foldl_append, hfirst.nest_eq, hsecond.nest_eq]

theorem isPiece_flatMap {α : Type} {f : α → List Token} {entries : List α}
    (h : ∀ entry ∈ entries, IsPiece (f entry)) : IsPiece (entries.flatMap f) := by
  induction entries with
  | nil => exact ⟨List.not_mem_nil, fun _ => rfl⟩
  | cons entry entries ih =>
      obtain ⟨hentry, hentries⟩ := List.forall_mem_cons.mp h
      rw [List.flatMap_cons]
      exact isPiece_append hentry (ih hentries)

/-- Names and words of types have neither commas nor parentheses. -/
theorem isPiece_of_all {tokens : List Token} (h : tokens.all isTypeWord = true) :
    IsPiece tokens := by
  induction tokens with
  | nil => exact ⟨List.not_mem_nil, fun _ => rfl⟩
  | cons token tokens ih =>
      rw [List.all_cons, Bool.and_eq_true] at h
      obtain ⟨htoken, htokens⟩ := h
      cases token with
      | word letters =>
          have hword : IsPiece [.word letters] := ⟨by simp, fun _ => rfl⟩
          exact isPiece_append hword (ih htokens)
      | ident | unclosed | placeholder | mark => exact Bool.noConfusion htoken

end Token

theorem ColumnClause.isPiece_tokens (clause : ColumnClause) : Token.IsPiece clause.tokens := by
  cases clause with
  | primaryKey | autoIncrement | notNull | unique | lengthCheck | references =>
      exact ⟨by simp [tokens], fun _ => rfl⟩

theorem ColumnDef.isPiece_tokens (column : ColumnDef) (dialect : Dialect)
    (clauses : List ColumnClause) : Token.IsPiece (column.tokens dialect clauses) := by
  have hname : Token.IsPiece [.ident column.name] := ⟨by simp, fun _ => rfl⟩
  have htype := Token.isPiece_of_all (ColumnType.plain_of_mem_names _
    (ColumnType.word_mem dialect column.constraints column.type)).2.2
  have hclauses := Token.isPiece_flatMap fun clause (_ : clause ∈ clauses) =>
    clause.isPiece_tokens
  exact Token.isPiece_append hname (Token.isPiece_append htype hclauses)

namespace Fragment

/-! ## Definitions of columns -/

def DefinesColumn (dialect : Dialect) (fragment : Fragment) : Prop :=
  ∃ column, ColumnDef.fragment column dialect = .ok fragment

namespace DefinesColumn

variable {dialect : Dialect} {fragment : Fragment}

theorem legible (h : DefinesColumn dialect fragment) : fragment.Legible := by
  obtain ⟨column, hcolumn⟩ := h
  obtain ⟨clauses, -, hlegible, -⟩ := ColumnDef.tokens_of_fragment hcolumn
  exact hlegible

theorem params_eq_nil (h : DefinesColumn dialect fragment) : fragment.params = [] := by
  obtain ⟨column, hcolumn⟩ := h
  obtain ⟨clauses, -, -, hparams, -⟩ := ColumnDef.tokens_of_fragment hcolumn
  exact hparams

theorem isPiece (h : DefinesColumn dialect fragment) :
    Token.IsPiece (tokensFrom dialect 0 fragment.chunks) := by
  obtain ⟨column, hcolumn⟩ := h
  obtain ⟨clauses, -, -, -, htokens⟩ := ColumnDef.tokens_of_fragment hcolumn
  rw [htokens]
  exact column.isPiece_tokens dialect clauses

end DefinesColumn

theorem definesColumn_of_forall₂ {dialect : Dialect} {fragments : List Fragment}
    {columns : List ColumnDef}
    (h : List.Forall₂ (fun fragment column => ColumnDef.fragment column dialect = .ok fragment)
      fragments columns) :
    ∀ fragment ∈ fragments, DefinesColumn dialect fragment :=
  forall_mem_of_forall₂ (fun _ column hcolumn => ⟨column, hcolumn⟩) h

/-! ## Joined fragments -/

section Joined

variable {dialect : Dialect} {fragments : List Fragment}
  (h : ∀ fragment ∈ fragments, DefinesColumn dialect fragment)

include h

theorem legible_join_of_definesColumn : (join ", " fragments).Legible :=
  legible_join (by decide) (by decide) (by decide) fun fragment hfragment =>
    (h fragment hfragment).legible

theorem paramCount_join : (join ", " fragments).paramCount = 0 := by
  have hnil : fragments.flatMap params = [] :=
    List.flatMap_eq_nil_iff.mpr fun fragment hfragment => (h fragment hfragment).params_eq_nil
  rw [paramCount, params_join, hnil, List.length_nil]

theorem tokensFrom_join :
    tokensFrom dialect 0 (join ", " fragments).chunks =
      [.mark ','].intercalate
        (fragments.map fun fragment => tokensFrom dialect 0 fragment.chunks) := by
  have hcomma : Token.ofText ", " = [.mark ','] := rfl
  induction fragments with
  | nil => rfl
  | cons first rest ih =>
      obtain ⟨hfirst, hrest⟩ := List.forall_mem_cons.mp h
      cases rest with
      | nil =>
          rw [List.map_singleton, List.intercalate_singleton]
          rfl
      | cons second rest =>
          have hjoin : (join ", " (first :: second :: rest)).chunks =
              first.chunks ++ (.text ", " :: (join ", " (second :: rest)).chunks) :=
            List.append_assoc _ _ _
          have hcount : (first.chunks.filterMap Chunk.value?).length = 0 :=
            List.length_eq_zero_iff.mpr hfirst.params_eq_nil
          have hstep : tokensFrom dialect 0 (join ", " (first :: second :: rest)).chunks =
              tokensFrom dialect 0 first.chunks ++
                ([.mark ','] ++ tokensFrom dialect 0 (join ", " (second :: rest)).chunks) := by
            rw [hjoin, tokensFrom_append, hcount, tokensFrom, Chunk.tokens, hcomma]
            rfl
          rw [hstep, ih hrest, List.map_cons, List.map_cons, List.map_cons,
            List.intercalate_cons_cons, List.append_assoc]

/-- Without values, the place of a text changes nothing. -/
theorem texts_eq_map :
    texts dialect 0 fragments = fragments.map fun fragment => (fragment.render dialect).sql := by
  induction fragments with
  | nil => rfl
  | cons first rest ih =>
      obtain ⟨hfirst, hrest⟩ := List.forall_mem_cons.mp h
      have hcount : first.paramCount = 0 := List.length_eq_zero_iff.mpr hfirst.params_eq_nil
      rw [texts, hcount, ih hrest]
      rfl

/-- The text of joined definitions is read as their tokens. -/
theorem ofText_intercalate :
    Token.ofText
        (", ".intercalate (fragments.map fun fragment => (fragment.render dialect).sql)) =
      tokensFrom dialect 0 (join ", " fragments).chunks := by
  have hsql : ((join ", " fragments).render dialect).sql =
      textFrom dialect 0 (join ", " fragments) := rfl
  rw [← (legible_join_of_definesColumn h).ofText_render, hsql, textFrom_join, texts_eq_map h]

theorem splitAtCommas_intercalate (hne : fragments ≠ []) :
    Token.splitAtCommas 0 (Token.ofText
        (", ".intercalate (fragments.map fun fragment => (fragment.render dialect).sql))) =
      (fragments.map fun fragment => (fragment.render dialect).sql).map Token.ofText := by
  have hpieces : ∀ piece ∈ fragments.map fun fragment => tokensFrom dialect 0 fragment.chunks,
      Token.IsPiece piece := by
    rw [List.forall_mem_map]
    exact fun fragment hfragment => (h fragment hfragment).isPiece
  rw [ofText_intercalate h, tokensFrom_join h,
    Token.splitAtCommas_intercalate (fun hnil => hne (List.map_eq_nil_iff.mp hnil)) hpieces,
    List.map_map]
  apply List.map_congr_left
  intro fragment hfragment
  exact ((h fragment hfragment).legible.ofText_render dialect).symm

end Joined

end Fragment

namespace Schema

/-! ## Definitions of tables -/

variable {schema : Schema} {dialect : Dialect} {mode : CreateMode}

/-- The tokens of the words that open a definition. -/
def createTokens : CreateMode → List Token
  | .abortIfExists => [.word "CREATE", .word "TABLE"]
  | .ifNotExists => [.word "CREATE", .word "TABLE", .word "IF", .word "NOT", .word "EXISTS"]

/-- The definition with the columns' fragments in it. -/
def assemble (schema : Schema) (mode : CreateMode) (fragments : List Fragment) : Fragment :=
  Fragment.text (createWords mode) ++ Fragment.ident schema.table ++ Fragment.text " (" ++
    Fragment.join ", " fragments ++ Fragment.text ")"

theorem createText_of_nil (h : schema.columns = []) :
    schema.createText dialect mode = .error schema.noColumns := by
  rw [createText, createFragment, h]
  rfl

theorem createText_of_ne_nil (h : schema.columns ≠ []) :
    schema.createText dialect mode =
      schema.columns.mapM (fun column => column.fragment dialect) >>= fun fragments =>
        .ok ((schema.assemble mode fragments).render dialect).sql := by
  have hsome : schema.columns.isEmpty = false := List.isEmpty_eq_false_iff.mpr h
  rw [createText, createFragment, hsome]
  cases schema.columns.mapM fun column => column.fragment dialect with
  | error error => rfl
  | ok fragments => rfl

theorem createText_eq_ok_iff {text : String} :
    schema.createText dialect mode = .ok text ↔
      schema.columns ≠ [] ∧ ∃ fragments,
        List.Forall₂ (fun fragment column => ColumnDef.fragment column dialect = .ok fragment)
          fragments schema.columns ∧
        ((schema.assemble mode fragments).render dialect).sql = text := by
  by_cases hne : schema.columns = []
  · rw [createText_of_nil hne]
    exact iff_of_false nofun fun h => h.1 hne
  · rw [createText_of_ne_nil hne, bind_eq_ok_iff]
    simp only [mapM_eq_ok_iff, Except.ok.injEq]
    exact (and_iff_right hne).symm

theorem createText_eq_error_iff {error : Error} :
    schema.createText dialect mode = .error error ↔
      (schema.columns = [] ∧ error = schema.noColumns) ∨
      ∃ before column after, schema.columns = before ++ column :: after ∧
        (∀ earlier ∈ before, ColumnDef.HasKeys earlier) ∧ ColumnDef.Dangles column error := by
  by_cases hne : schema.columns = []
  · rw [createText_of_nil hne]
    constructor
    · intro h
      exact .inl ⟨hne, (Except.error.inj h).symm⟩
    · rintro (⟨-, rfl⟩ | ⟨before, column, after, hcolumns, -⟩)
      · rfl
      · rw [hne] at hcolumns
        exact absurd (List.append_eq_nil_iff.mp hcolumns.symm).2 (List.cons_ne_nil _ _)
  · rw [createText_of_ne_nil hne, bind_eq_error_iff]
    simp only [mapM_eq_error_iff, ColumnDef.exists_fragment_iff, ColumnDef.fragment_eq_error_iff]
    constructor
    · rintro (h | ⟨_, _, h⟩)
      · exact .inr h
      · cases h
    · rintro (⟨hnil, -⟩ | h)
      · exact absurd hnil hne
      · exact .inl h

section Assembled

variable {fragments : List Fragment}
  (h : ∀ fragment ∈ fragments, Fragment.DefinesColumn dialect fragment)

include h

theorem legible_assemble : (schema.assemble mode fragments).Legible := by
  have hwords : (Chunk.text (createWords mode)).isPlain = true ∧
      (Chunk.text (createWords mode)).isClosed = true := by
    cases mode <;> decide
  have htable : (Fragment.text (createWords mode) ++ Fragment.ident schema.table).Legible :=
    (Fragment.legible_ident schema.table).text_append hwords.1 hwords.2
  have hopen := htable.append_text " (" (by decide) (by decide)
  have hbody := hopen.append (Fragment.legible_join_of_definesColumn h)
    (.inl (Fragment.isClosed_append_text _ (by decide)))
  exact hbody.append_text ")" (by decide) (by decide)

theorem sql_assemble :
    ((schema.assemble mode fragments).render dialect).sql =
      createWords mode ++ Identifier.quote schema.table ++ " (" ++
        ", ".intercalate (fragments.map fun fragment => (fragment.render dialect).sql) ++
          ")" := by
  have hsql : ((schema.assemble mode fragments).render dialect).sql =
      Fragment.textFrom dialect 0 (schema.assemble mode fragments) := rfl
  have hhead : (Fragment.text (createWords mode) ++ Fragment.ident schema.table ++
      Fragment.text " (").paramCount = 0 := rfl
  rw [hsql, assemble, Fragment.textFrom_append, Fragment.textFrom_append,
    Fragment.textFrom_append, Fragment.textFrom_append, Fragment.textFrom_text,
    Fragment.textFrom_text, Fragment.textFrom_text, Fragment.textFrom_ident, hhead,
    Fragment.textFrom_join, Fragment.texts_eq_map h]

theorem tokens_assemble :
    Fragment.tokensFrom dialect 0 (schema.assemble mode fragments).chunks =
      createTokens mode ++ .ident schema.table :: .mark '(' ::
        (Fragment.tokensFrom dialect 0 (Fragment.join ", " fragments).chunks ++
          [.mark ')']) := by
  have hchunks : (schema.assemble mode fragments).chunks =
      [.text (createWords mode), .ident schema.table, .text " ("] ++
        ((Fragment.join ", " fragments).chunks ++ [.text ")"]) :=
    List.append_assoc _ _ _
  have hwords : Token.ofText (createWords mode) = createTokens mode := by
    cases mode <;> rfl
  have hhead : Fragment.tokensFrom dialect 0
      [.text (createWords mode), .ident schema.table, .text " ("] =
        createTokens mode ++ [.ident schema.table, .mark '('] := by
    rw [← hwords]
    rfl
  have hnone : 0 + ([Chunk.text (createWords mode), .ident schema.table,
      .text " ("].filterMap Chunk.value?).length = 0 := rfl
  have hcount : ((Fragment.join ", " fragments).chunks.filterMap Chunk.value?).length = 0 :=
    Fragment.paramCount_join h
  have hlast : ∀ index, Fragment.tokensFrom dialect index [.text ")"] = [.mark ')'] :=
    fun _ => rfl
  rw [hchunks, Fragment.tokensFrom_append, hnone, Fragment.tokensFrom_append, hcount, hhead,
    hlast, List.append_assoc]
  rfl

theorem names_assemble :
    (Token.ofText ((schema.assemble mode fragments).render dialect).sql).filterMap
        Token.name? =
      schema.table :: (fragments.map Fragment.names).flatten := by
  rw [(legible_assemble h).names_ofText]
  simp [assemble, List.flatMap]

end Assembled

/-! ## What a definition is made of -/

/-- The text opens with the name of the table, and its body is the definitions of the
columns, which are found again when the body is split. -/
structure IsWritten (schema : Schema) (dialect : Dialect) (mode : CreateMode) (text : String)
    (body : String) (definitions : List String) : Prop where
  text_eq : text =
    createWords mode ++ Identifier.quote schema.table ++ " (" ++ body ++ ")"
  tokens_eq : Token.ofText text =
    createTokens mode ++ .ident schema.table :: .mark '(' :: (Token.ofText body ++ [.mark ')'])
  /-- There is one definition for each column. -/
  defined : List.Forall₂ (fun column definition => ∃ fragment : Fragment,
    ColumnDef.fragment column dialect = .ok fragment ∧
      (fragment.render dialect).sql = definition) schema.columns definitions
  body_eq : body = ", ".intercalate definitions
  split_eq : Token.splitAtCommas 0 (Token.ofText body) = definitions.map Token.ofText

/-- A definition has the names and the parts that its columns have. -/
theorem isWritten_of_createText {text : String} (h : schema.createText dialect mode = .ok text) :
    (∃ names, List.Forall₂ ColumnDef.WritesNames schema.columns names ∧
      (Token.ofText text).filterMap Token.name? = schema.table :: names.flatten) ∧
    ∃ body definitions, schema.IsWritten dialect mode text body definitions := by
  obtain ⟨hne, fragments, hfragments, rfl⟩ := createText_eq_ok_iff.mp h
  have hcolumns := Fragment.definesColumn_of_forall₂ hfragments
  have hsome : fragments ≠ [] := by
    rintro rfl
    exact hne (List.forall₂_nil_left_iff.mp hfragments)
  constructor
  · refine ⟨fragments.map Fragment.names, ?_, names_assemble hcolumns⟩
    rw [List.forall₂_map_right_iff]
    exact hfragments.flip.imp fun column fragment => ColumnDef.writesNames_of_fragment
  · refine ⟨_, _, sql_assemble hcolumns, ?_, ?_, rfl,
      Fragment.splitAtCommas_intercalate hcolumns hsome⟩
    · rw [(legible_assemble hcolumns).ofText_render, tokens_assemble hcolumns,
        Fragment.ofText_intercalate hcolumns]
    · rw [List.forall₂_map_right_iff]
      exact hfragments.flip.imp fun column fragment hcolumn => ⟨fragment, hcolumn, rfl⟩

theorem exists_createText_iff :
    (∃ text, schema.createText dialect mode = .ok text) ↔
      schema.columns ≠ [] ∧ ∀ column ∈ schema.columns, ColumnDef.HasKeys column := by
  constructor
  · rintro ⟨text, htext⟩
    obtain ⟨hne, fragments, hfragments, -⟩ := createText_eq_ok_iff.mp htext
    refine ⟨hne, ?_⟩
    intro column hcolumn
    exact ColumnDef.exists_fragment_iff.mp
      (exists_forall₂_iff.mp ⟨fragments, hfragments⟩ column hcolumn)
  · rintro ⟨hne, hkeys⟩
    obtain ⟨fragments, hfragments⟩ := exists_forall₂_iff.mpr fun column hcolumn =>
      ColumnDef.exists_fragment_iff.mpr (hkeys column hcolumn)
    exact ⟨_, createText_eq_ok_iff.mpr ⟨hne, fragments, hfragments, rfl⟩⟩

/-- The definition of a table is faithful to its schema.  There is one just if there are
columns and each table that a foreign key refers to has a primary key; otherwise the error
is a schema error, for the first column that has none to refer to.  The names in the text
are the name of the table and then those of each column, and the text between the
parentheses is split into one definition for each column. -/
theorem createText_structure (schema : Schema) (dialect : Dialect) (mode : CreateMode) :
    ((∃ text, schema.createText dialect mode = .ok text) ↔
      schema.columns ≠ [] ∧ ∀ column ∈ schema.columns, ColumnDef.HasKeys column) ∧
    (∀ error, schema.createText dialect mode = .error error ↔
      (schema.columns = [] ∧ error = schema.noColumns) ∨
      ∃ before column after, schema.columns = before ++ column :: after ∧
        (∀ earlier ∈ before, ColumnDef.HasKeys earlier) ∧ ColumnDef.Dangles column error) ∧
    (∀ error, schema.createText dialect mode = .error error → error.kind = .schema) ∧
    ∀ text, schema.createText dialect mode = .ok text →
      (∃ names, List.Forall₂ ColumnDef.WritesNames schema.columns names ∧
        (Token.ofText text).filterMap Token.name? = schema.table :: names.flatten) ∧
      ∃ body definitions, schema.IsWritten dialect mode text body definitions := by
  refine ⟨exists_createText_iff, fun _ => createText_eq_error_iff, ?_,
    fun _ => isWritten_of_createText⟩
  intro error h
  rcases createText_eq_error_iff.mp h with ⟨-, rfl⟩ |
    ⟨_, _, _, _, _, target, _, _, rfl⟩
  · rfl
  · rfl

/-- A table whose names have commas, quotes and parentheses, and a foreign key. -/
def awkward : Schema :=
  ⟨"a \"table\", (one", [⟨"text, b)", .text, { maxLength := some 3 }⟩,
    ⟨"owner", .foreignKey Sample.user.schema.reference, {}⟩]⟩

/-- The names are not taken for punctuation. -/
theorem createText_structure_awkward :
    ∃ text body, awkward.createText .sqlite .abortIfExists = .ok text ∧
      text = "CREATE TABLE " ++ Identifier.quote awkward.table ++ " (" ++ body ++ ")" ∧
      (Token.splitAtCommas 0 (Token.ofText body)).length = 2 := by
  obtain ⟨-, -, -, hwritten⟩ := createText_structure awkward .sqlite .abortIfExists
  have htext : ∃ text, awkward.createText .sqlite .abortIfExists = .ok text := ⟨_, rfl⟩
  obtain ⟨text, htext⟩ := htext
  obtain ⟨-, body, definitions, h⟩ := hwritten text htext
  refine ⟨text, body, htext, h.text_eq, ?_⟩
  rw [h.split_eq, List.length_map, ← h.defined.length_eq]
  rfl

end Schema

end TypedQuery
