/-
# Methods as they are written

What a body means is one side of it (`Action.call?`); the other is what stands in the source.  This
module gives the pieces of terms, bodies, methods and states, word by word, and proves that the
text of each is laid of them.  So whoever reads the source of a state finds there, in the method of
each name, the parameters with their types and the statements that mean its call.

`Emits` says this of a state in the items that are generated.
-/
import WideColumn.Builder.Entry
import WideColumn.Proofs.Source.Laid

namespace WideColumn.Builder

open WideColumn.Source

/-! ## 1. Terms -/

/-- A path inside the library. -/
def inCore (path : String) : Piece := .words (":: keyspace :: core :: " ++ path)

/-- The codec as an argument of a function. -/
def Encoding.pieces : Encoding → List Piece
  | codec type => Piece.angled [[.words type]]
  | builtIn type =>
    Piece.row [[.words "<"], [inCore "codec :: NativeCodec"], [.words "<"], [.words type],
      [.words ">>"]]

/-- A function of a codec, applied to a column and what is known. -/
def onColumn (function : String) (codec : List Piece) (column name : String) : List Piece :=
  Piece.row [[inCore function], codec,
    Piece.round [[.quoted column], [.words ", &"], [.words name]]]

/-- The pieces of a term. -/
def Term.pieces : Term → List Piece
  | known name => [.words name]
  | borrowed name => Piece.row [[.words "&"], [.words name]]
  | quoted s => [.quoted s]
  | owned s => Piece.row [[.quoted s], [.words ". to_string ()"]]
  | truth b => [.words (if b then "true" else "false")]
  | place n => [.words (toString n ++ "usize")]
  | order .ascending => [inCore "range :: OrderingMode :: Ascending"]
  | order .descending => [inCore "range :: OrderingMode :: Descending"]
  | filled template name =>
    Piece.row [[.words ":: std :: format !"],
      Piece.round [[.quoted template], [.words ","], [.words name]]]
  | encoded encoding column name =>
    onColumn "codec :: encode_column ::" encoding.pieces column name
  | encodedAll codec column name =>
    onColumn "codec :: encode_column_list ::" (Piece.angled [[.words codec]]) column name
  | textValue name copy =>
    Piece.row [[.words "Ok"], Piece.round [[inCore "value :: Value :: Text"],
      Piece.round [[.words name], [.words "."], [.words copy], [.words "()"]]]]

/-- The pieces of a method of a query. -/
def QueryMethod.pieces : QueryMethod → List Piece
  | projectFunction => [.words "project_function"]
  | relation => [.words "relation"]
  | rangeRelations => [.words "range_relations"]
  | assignment => [.words "assignment"]
  | assignmentLiteral => [.words "assignment_literal"]
  | condition => [.words "condition"]
  | indexRelation => [.words "index_relation"]
  | indexRelationPair => [.words "index_relation_pair"]
  | allowFiltering => [.words "allow_filtering"]
  | limit => [.words "limit"]
  | perPartitionLimit => [.words "per_partition_limit"]
  | ordering record => Piece.row [[.words "ordering ::"], Piece.angled [[.words record]]]
  | consistency => [.words "consistency"]
  | serialConsistency => [.words "serial_consistency"]
  | fetchSize => [.words "fetch_size"]
  | pagingState => [.words "paging_state"]
  | ifExists => [.words "if_exists"]
  | ifNotExists => [.words "if_not_exists"]
  | usingTtl => [.words "using_ttl"]
  | usingTimestamp => [.words "using_timestamp"]

theorem laid_inCore (path : String) : Laid [inCore path] (core path) := .words _

theorem laid_encoding (e : Encoding) : Laid e.pieces e.text := by
  cases e with
  | codec type => exact .angled (.cons (.words type) .nil)
  | builtIn type =>
    exact .lay (.cons (.words _) (.cons (laid_inCore _) (.cons (.words _) (.cons (.words type)
      (.cons (.words _) .nil)))))

theorem laid_onColumn (function : String) {codec : List Piece} {codecText : String}
    (h : Laid codec codecText) (column name : String) :
    Laid (onColumn function codec column name)
      (lay [core function, codecText, round [literal column, ", &", name]]) :=
  .lay (.cons (laid_inCore function) (.cons h (.cons (.round (.cons (.literal column)
    (.cons (.words _) (.cons (.words name) .nil)))) .nil)))

/-- **A term is written as its pieces.** -/
theorem laid_term (t : Term) : Laid t.pieces t.text := by
  cases t with
  | known name => exact .words name
  | borrowed name => exact .lay (.cons (.words _) (.cons (.words name) .nil))
  | quoted s => exact .literal s
  | owned s => exact .lay (.cons (.literal s) (.cons (.words _) .nil))
  | truth b => cases b <;> exact .words _
  | place n => exact .words _
  | order d => cases d <;> exact .words _
  | filled template name =>
    exact .lay (.cons (.words _) (.cons (.round (.cons (.literal template) (.cons (.words _)
      (.cons (.words name) .nil)))) .nil))
  | encoded encoding column name => exact laid_onColumn _ (laid_encoding encoding) column name
  | encodedAll codec column name =>
    exact laid_onColumn _ (.angled (.cons (.words codec) .nil)) column name
  | textValue name copy =>
    have hcopied : Laid (Piece.round [[.words name], [.words "."], [.words copy], [.words "()"]])
        (round [name, ".", copy, "()"]) :=
      .round (.cons (.words _) (.cons (.words _) (.cons (.words _) (.cons (.words _) .nil))))
    exact .lay (.cons (.words _) (.cons (.round (.cons (laid_inCore _) (.cons hcopied .nil))) .nil))

theorem laid_queryMethod (m : QueryMethod) : Laid m.pieces m.text := by
  cases m with
  | ordering record =>
    exact .lay (.cons (.words _) (.cons (.angled (.cons (.words record) .nil)) .nil))
  | _ => exact .words _

/-! ## 2. Bodies -/

namespace Body

/-- The pieces of an argument, or of a tuple of them. -/
def argumentPieces : List Term → List Piece
  | [t] => t.pieces
  | ts => Piece.round [Piece.listed (ts.map Term.pieces)]

/-- The pieces of a term that is given a name. -/
def definitionPieces (named : String × Term) : List Piece :=
  Piece.row [[.words "let"], [.words named.1], [.words "="], named.2.pieces, [.words ";"]]

/-- The pieces of a body: the terms that are given names, and the call on the query. -/
def pieces (b : Body) : List Piece :=
  Piece.row [Piece.row (b.locals.map definitionPieces), [.words "self . state ."], b.method.pieces,
    Piece.round [Piece.listed (b.arguments.map argumentPieces),
      if b.isClosed then [.words ","] else []],
    [.words ";"]]

theorem laid_argument (ts : List Term) : Laid (argumentPieces ts) (argument ts) := by
  have htuple : Laid (Piece.round [Piece.listed (ts.map Term.pieces)])
      (round [listed (ts.map Term.text)]) :=
    .round (.cons (.listed (Laid.map fun t _ => laid_term t)) .nil)
  match ts, htuple with
  | [], h => exact h
  | [t], _ => exact laid_term t
  | _ :: _ :: _, h => exact h

theorem laid_definition (named : String × Term) :
    Laid (definitionPieces named) (definition named) :=
  .lay (.cons (.words _) (.cons (.words _) (.cons (.words _) (.cons (laid_term _)
    (.cons (.words _) .nil)))))

/-- **A body is written as its pieces.** -/
theorem laid_text (b : Body) : Laid b.pieces b.text := by
  have hlocals : Laid (Piece.row (b.locals.map definitionPieces)) (lay (b.locals.map definition)) :=
    .lay (Laid.map fun named _ => laid_definition named)
  have harguments : Laid (Piece.listed (b.arguments.map argumentPieces))
      (listed (b.arguments.map argument)) := .listed (Laid.map fun ts _ => laid_argument ts)
  have hclosed :
      Laid (if b.isClosed then [.words ","] else []) (if b.isClosed then "," else "") := by
    split
    · exact .words _
    · exact .nil
  exact .lay (.cons hlocals (.cons (.words _) (.cons (laid_queryMethod _)
    (.cons (.round (.cons harguments (.cons hclosed .nil))) (.cons (.words _) .nil)))))

end Body

/-! ## 3. Methods -/

/-- The pieces of a builder type. -/
def builderPieces (state : String) : List Piece := Piece.row [[.words state], [.words "< 'a >"]]

/-- The pieces of a builder around the query of this one. -/
def rebuiltPieces (state : String) : List Piece :=
  Piece.row [[.words state], Piece.curly [[.words "state : self . state"]]]

/-- The pieces of the builder that a method returns. -/
def resultPieces : Option String → List Piece
  | some state => rebuiltPieces state
  | none => [.words "self"]

/-- The pieces of a parameter with its type. -/
def parameterPieces (parameter : String × String) : List Piece :=
  Piece.row [[.words parameter.1], [.words ":"], [.words parameter.2]]

/-- The pieces of the parameters after the receiver. -/
def Action.parameterListPieces (a : Action) : List Piece :=
  let rows := Piece.listed (a.parameters.map parameterPieces)
  match a with
  | set _ => Piece.row [[.words ","], rows]
  | projectFunction => Piece.row [[.words ","], rows, [.words ","]]
  | _ => if a.parameters.isEmpty then [] else Piece.row [[.words ","], rows]

/-- The pieces of a call that sends the query off. -/
def Terminal.pieces (t : Terminal) : List Piece :=
  match t with
  | getList record | getOne record | getListAsync record =>
    Piece.row [[.words t.name], [.words "::"], Piece.angled [[.words record]], [.words "()"]]
  | _ => [.words (t.name ++ " ()")]

namespace Method

/-- The pieces of the type that a method returns. -/
def returnPieces (m : Method) : List Piece :=
  match m.act, m.via with
  | .finish t, _ => [.words t.output]
  | .change _ _ (some next), _ => builderPieces next
  | .change _ _ none, some state => builderPieces state
  | .change _ _ none, none => [.words "Self"]

/-- The pieces of a method. -/
def pieces (m : Method) : List Piece :=
  match m.act, m.via with
  | .change name action next, none =>
    Piece.row [[.words "pub fn"], [.words name],
      Piece.round [[.words "mut self"], action.parameterListPieces], [.words "->"], m.returnPieces,
      Piece.curly [action.body.pieces, resultPieces next]]
  | .change name action _, some state =>
    Piece.row [[.words "pub fn"], [.words name],
      Piece.round [[.words "self"], action.parameterListPieces], [.words "->"], m.returnPieces,
      Piece.curly [rebuiltPieces state, [.words "."], [.words name],
        Piece.round [Piece.listed (action.parameters.map fun p => [.words p.1])]]]
  | .finish t, none =>
    Piece.row [[.words (if t.isAsync then "pub async fn" else "pub fn")], [.words t.name],
      [.words "(self) ->"], m.returnPieces, Piece.curly [[.words "self . state ."], t.pieces,
        [.words (if t.isAsync then ". await" else "")]]]
  | .finish t, some state =>
    Piece.row [[.words (if t.isAsync then "pub async fn" else "pub fn")], [.words t.name],
      [.words "(self) ->"], m.returnPieces, Piece.curly [rebuiltPieces state, [.words "."],
        [.words t.name], [.words "()"], [.words (if t.isAsync then ". await" else "")]]]

end Method

theorem laid_builderType (state : String) : Laid (builderPieces state) (builderType state) :=
  .lay (.cons (.words state) (.cons (.words _) .nil))

theorem laid_rebuilt (state : String) : Laid (rebuiltPieces state) (rebuilt state) :=
  .lay (.cons (.words state) (.cons (.curly (.cons (.words _) .nil)) .nil))

theorem laid_typed (parameter : String × String) :
    Laid (parameterPieces parameter) (typed parameter) :=
  .lay (.cons (.words _) (.cons (.words _) (.cons (.words _) .nil)))

/-- Only an empty row of parameters has no text. -/
theorem isEmpty_parameters (parameters : List (String × String)) :
    (listed (parameters.map typed)).isEmpty = parameters.isEmpty := by
  cases parameters with
  | nil => rfl
  | cons first others =>
    have hfirst : typed first ≠ "" := by
      simp [typed, lay_eq_empty]
    have hall : listed ((first :: others).map typed) ≠ "" := by
      rw [listed, ne_eq, lay_eq_empty]
      intro h
      refine hfirst (h _ ?_)
      cases others <;> simp
    simpa using hall

theorem laid_parameterList (a : Action) : Laid a.parameterListPieces a.parameterList := by
  have hrows : Laid (Piece.listed (a.parameters.map parameterPieces))
      (listed (a.parameters.map typed)) := .listed (Laid.map fun p _ => laid_typed p)
  have hafter : Laid (Piece.row [[.words ","], Piece.listed (a.parameters.map parameterPieces)])
      (lay [",", listed (a.parameters.map typed)]) := .lay (.cons (.words _) (.cons hrows .nil))
  have hif : Laid
      (if a.parameters.isEmpty then []
        else Piece.row [[.words ","], Piece.listed (a.parameters.map parameterPieces)])
      (if (listed (a.parameters.map typed)).isEmpty then ""
        else lay [",", listed (a.parameters.map typed)]) := by
    rw [isEmpty_parameters]
    split
    · exact .nil
    · exact hafter
  cases a with
  | set s => exact hafter
  | projectFunction => exact .lay (.cons (.words _) (.cons hrows (.cons (.words _) .nil)))
  | _ => exact hif

theorem laid_terminal (t : Terminal) : Laid t.pieces t.call := by
  have hrecord : ∀ record, Laid
      (Piece.row [[.words t.name], [.words "::"], Piece.angled [[.words record]], [.words "()"]])
      (lay [t.name, "::", angled [record], "()"]) := fun record =>
    .lay (.cons (.words _) (.cons (.words _) (.cons (.angled (.cons (.words record) .nil))
      (.cons (.words _) .nil))))
  cases t with
  | getList record | getOne record | getListAsync record => exact hrecord record
  | _ => exact .words _

theorem laid_result (next : Option String) :
    Laid (resultPieces next) (match next with
      | some state => rebuilt state
      | none => "self") := by
  cases next with
  | some state => exact laid_rebuilt state
  | none => exact .words _

theorem laid_returns (m : Method) : Laid m.returnPieces m.returns := by
  obtain ⟨act, via⟩ := m
  cases act with
  | finish t => exact .words _
  | change name action next =>
    cases next with
    | some next => exact laid_builderType next
    | none =>
      cases via with
      | some state => exact laid_builderType state
      | none => exact .words _

/-- **A method is written as its pieces.** -/
theorem laid_method (m : Method) : Laid m.pieces m.text := by
  have hreturns := laid_returns m
  obtain ⟨act, via⟩ := m
  cases act with
  | change name action next =>
    have hparameters := laid_parameterList action
    cases via with
    | none =>
      exact .lay (.cons (.words _) (.cons (.words name) (.cons
        (.round (.cons (.words _) (.cons hparameters .nil))) (.cons (.words _) (.cons hreturns
          (.cons (.curly (.cons (Body.laid_text _) (.cons (laid_result next) .nil))) .nil))))))
    | some state =>
      have hnames : Laid (Piece.listed (action.parameters.map fun p => [.words p.1]))
          (listed (action.parameters.map (·.1))) := .listed (Laid.map fun p _ => .words p.1)
      exact .lay (.cons (.words _) (.cons (.words name) (.cons
        (.round (.cons (.words _) (.cons hparameters .nil))) (.cons (.words _) (.cons hreturns
          (.cons (.curly (.cons (laid_rebuilt state) (.cons (.words _) (.cons (.words name)
            (.cons (.round (.cons hnames .nil)) .nil))))) .nil))))))
  | finish t =>
    cases via with
    | none =>
      exact .lay (.cons (.words _) (.cons (.words _) (.cons (.words _) (.cons hreturns
        (.cons (.curly (.cons (.words _) (.cons (laid_terminal t) (.cons (.words _) .nil))))
          .nil)))))
    | some state =>
      exact .lay (.cons (.words _) (.cons (.words _) (.cons (.words _) (.cons hreturns
        (.cons (.curly (.cons (laid_rebuilt state) (.cons (.words _) (.cons (.words _)
          (.cons (.words _) (.cons (.words _) .nil)))))) .nil)))))

/-! ## 4. States -/

/-- The pieces of a state: the methods of its type. -/
def State.pieces (s : State) : List Piece :=
  Piece.row [Piece.row [[.words "impl < 'a >"], builderPieces s.name],
    Piece.curly (s.methods.map Method.pieces)]

/-- **A state is emitted** if one of the items has the methods of its type: each of them under its
name and as it is to be written, and all of them in the text of the item. -/
def Emits (its : List Item) (s : State) : Prop :=
  ∃ header members, .methods s.name header [] members ∈ its
    ∧ (∀ m ∈ s.methods, ∃ member ∈ members, member.name = m.name ∧ Laid m.pieces member.text)
    ∧ Laid s.pieces (Item.methods s.name header [] members).text

/-- The items of a state emit it. -/
theorem emits_of_items {its : List Item} {s : State} (h : s.items ⊆ its) : Emits its s := by
  refine ⟨_, _, h (List.mem_cons_of_mem _ List.mem_cons_self), fun m hm => ?_, ?_⟩
  · exact ⟨m.member, List.mem_map_of_mem hm, rfl, laid_method m⟩
  · have hheader : Laid (Piece.row [[.words "impl < 'a >"], builderPieces s.name])
        (lay ["impl < 'a >", builderType s.name]) :=
      .lay (.cons (.words _) (.cons (laid_builderType s.name) .nil))
    have hmethods : Laid (Piece.curly (s.methods.map Method.pieces))
        (curly (s.methods.map Method.text)) := .curly (Laid.map fun m _ => laid_method m)
    rw [Item.text, List.nil_append, List.map_map]
    exact .lay (.cons hheader (.cons hmethods .nil))

/-! ## 5. Where a select chain begins -/

/-- The pieces of the method of the manager that begins a select chain. -/
def selectPieces (p : Plan) : List Piece :=
  Piece.row [[.words "pub fn"], [.words "select"], Piece.round [[.words "& self"], []],
    [.words "->"], builderPieces (selectEntry p false),
    Piece.curly [[.words (selectEntry p false)], Piece.curly [[.words "state :"],
      [inCore "query :: QueryState ::"],
      Piece.row [[.words "select ::"], Piece.angled [[.words p.name]],
        Piece.round [[.words "self . session ,"], [.words "false"]]], [.words ","]]]]

/-- **The method that begins a select chain is emitted** if it is among the methods of a type, as
it is to be written. -/
def EmitsSelect (its : List Item) (p : Plan) : Prop :=
  ∃ target header opening members, .methods target header opening members ∈ its
    ∧ ∃ member ∈ members, member.name = "select" ∧ Laid (selectPieces p) member.text

/-- The items of a manager emit it. -/
theorem emitsSelect_of_items {its : List Item} {p : Plan} (h : managerItems p ⊆ its) :
    EmitsSelect its p := by
  refine ⟨_, _, _, _, h (List.mem_cons_of_mem _ List.mem_cons_self), selectMember p false,
    by simp [managerMembers, inBothForms], rfl, ?_⟩
  have hselect : Laid _ (selecting p false) :=
    .lay (.cons (.words _) (.cons (.angled (.cons (.words p.name) .nil))
      (.cons (.round (.cons (.words _) (.cons (.words "false") .nil))) .nil)))
  have hquery : Laid _ (curly ["state :", core "query :: QueryState ::", selecting p false, ","]) :=
    .curly (.cons (.words _) (.cons (laid_inCore _) (.cons hselect (.cons (.words _) .nil))))
  exact .lay (.cons (.words _) (.cons (.words _) (.cons (.round (.cons (.words _) (.cons .nil .nil)))
    (.cons (.words _) (.cons (laid_builderType _)
      (.cons (.curly (.cons (.words _) (.cons hquery .nil))) .nil))))))

end WideColumn.Builder
