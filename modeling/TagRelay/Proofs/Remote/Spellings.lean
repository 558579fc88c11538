import TagRelay.Proofs.Remote.Declared

/-!
# Spellings of method names

A method may be called with blanks around its name and with the type of the connector and an
underscore in front of it, in any letter case.  All spellings of a name ask for the same method:
they are answered alike, do the same to the link and count under the same name.  Only the error
for a method that is not found repeats how it was spelled.
-/

namespace TagRelay.Remote

namespace Method

/-! ## Spellings -/

/-- What stands between blanks and behind a lead-in. -/
structure Core (type name : String) : Prop where
  trimmed : Text.trim name = name
  no_leadIn : ¬ (Text.lower (type ++ "_")).toList <+: (Text.lower name).toList

/-- The spellings of a name. -/
inductive Spelled (type name : String) : String → Prop
  | bare {before after : String} (hbefore : Text.isMissing before = true)
      (hafter : Text.isMissing after = true) : Spelled type name (before ++ name ++ after)
  | led {before lead after : String} (hbefore : Text.isMissing before = true)
      (hlead : Text.lower lead = Text.lower (type ++ "_"))
      (hafter : Text.isMissing after = true) :
      Spelled type name (before ++ (lead ++ name) ++ after)

/-- A name is a spelling of itself. -/
theorem Spelled.self (type name : String) : Spelled type name name := by
  have hself : Spelled type name ("" ++ name ++ "") := .bare rfl rfl
  simpa using hself

/-- The words for reading, in small letters. -/
def readWords : List String := ["get", "read"]

/-- The words for writing, in small letters. -/
def writeWords : List String := ["set", "write"]

/-- Names of one method: the same name, or two words for reading or for writing, in any letter
case. -/
def SameMethod (name other : String) : Prop :=
  name = other ∨ (Text.lower name ∈ readWords ∧ Text.lower other ∈ readWords) ∨
    (Text.lower name ∈ writeWords ∧ Text.lower other ∈ writeWords)

/-- The method of a name without blanks and lead-in. -/
def ofCore (name : String) : Method := (builtIn.lookup (Text.lower name)).getD (.declared name)

theorem ofCore_of_read {name : String} (hname : Text.lower name ∈ readWords) :
    ofCore name = .read := by
  simp only [readWords, List.mem_cons, List.not_mem_nil, or_false] at hname
  rcases hname with hname | hname <;> rw [ofCore, hname] <;> rfl

theorem ofCore_of_write {name : String} (hname : Text.lower name ∈ writeWords) :
    ofCore name = .write := by
  simp only [writeWords, List.mem_cons, List.not_mem_nil, or_false] at hname
  rcases hname with hname | hname <;> rw [ofCore, hname] <;> rfl

theorem ofCore_of_other {name : String} (hread : Text.lower name ∉ readWords)
    (hwrite : Text.lower name ∉ writeWords) : ofCore name = .declared name := by
  have hnone : Text.lower name ∉ builtInNames := by
    simpa [builtInNames, builtIn, readWords, writeWords, and_assoc] using And.intro hread hwrite
  rw [ofCore, lookup_builtIn_eq_none_iff.mpr hnone, Option.getD_none]

theorem SameMethod.ofCore_eq {name other : String} (hsame : SameMethod name other) :
    ofCore name = ofCore other := by
  rcases hsame with rfl | ⟨hname, hother⟩ | ⟨hname, hother⟩
  · rfl
  · rw [ofCore_of_read hname, ofCore_of_read hother]
  · rw [ofCore_of_write hname, ofCore_of_write hother]

theorem leadIn_eq (type : String) : leadIn type = (Text.lower (type ++ "_")).toList := by
  simp [leadIn, Text.lower, String.toList_append]

section Core

variable {type name text lead : String}

theorem strip_core (hcore : Core type name) : strip type name.toList = name.toList := by
  rcases strip_cases type name.toList with ⟨-, hsame⟩ | ⟨hleadIn, -⟩
  · exact hsame
  · refine absurd ?_ hcore.no_leadIn
    rwa [leadIn_eq, ← String.toList_ofList (l := name.toList.map Char.toLower)] at hleadIn

/-- Small letters keep the length of a text, so the lead-in takes as much of the name as it has
characters itself. -/
theorem strip_lead (hlead : Text.lower lead = Text.lower (type ++ "_")) (rest : List Char) :
    strip type (lead.toList ++ rest) = rest := by
  have hsmall : (lead.toList ++ rest).map Char.toLower =
      leadIn type ++ rest.map Char.toLower := by
    rw [List.map_append, leadIn_eq, ← hlead, Text.lower, String.toList_ofList]
  rw [strip, hsmall, Text.afterPrefix_eq_some_iff.mpr rfl]
  simp

/-- A lead-in has no blanks at its ends if the type does not begin with one. -/
theorem solid_lead (htype : ∀ c ∈ type.toList.head?, Text.isBlank c = false)
    (hlead : Text.lower lead = Text.lower (type ++ "_")) : Text.Solid lead.toList := by
  have hsmall : lead.toList.map Char.toLower = (type.toList ++ ['_']).map Char.toLower := by
    simpa [Text.lower, String.toList_append] using congrArg String.toList hlead
  -- Small letters leave the blanks where they are.
  have hblanks : lead.toList.map Text.isBlank = type.toList.map Text.isBlank ++ [false] := by
    have hmapped := congrArg (List.map Text.isBlank) hsmall
    simpa [Function.comp_def, Text.isBlank_toLower,
      show Text.isBlank '_' = false by decide] using hmapped
  constructor
  case nonempty =>
    intro hnil
    simp [hnil] at hblanks
  case head =>
    intro c hc
    have hfirst : (type.toList.map Text.isBlank ++ [false]).head? = some (Text.isBlank c) := by
      rw [← hblanks, List.head?_map, Option.mem_def.mp hc, Option.map_some]
    cases hchars : type.toList with
    | nil => simpa [hchars] using hfirst.symm
    | cons first rest =>
        have hsame : Text.isBlank first = Text.isBlank c := by simpa [hchars] using hfirst
        rw [← hsame, htype first (by simp [hchars])]
  case last =>
    intro c hc
    have hlast : (type.toList.map Text.isBlank ++ [false]).getLast? = some (Text.isBlank c) := by
      rw [← hblanks, List.getLast?_map, Option.mem_def.mp hc, Option.map_some]
    simpa using hlast.symm

theorem trimList_lead (htype : ∀ c ∈ type.toList.head?, Text.isBlank c = false)
    (hlead : Text.lower lead = Text.lower (type ++ "_")) (hcore : Core type name) :
    Text.trimList (lead.toList ++ name.toList) = lead.toList ++ name.toList := by
  have hsolid := solid_lead htype hlead
  by_cases hname : name.toList = []
  · rw [hname, List.append_nil, hsolid.trimList_eq]
  · have htrimmed : Text.trimList name.toList = name.toList := by
      simpa [Text.trim] using congrArg String.toList hcore.trimmed
    exact (hsolid.append (.of_trimList_eq hname htrimmed)).trimList_eq

theorem ofText_of_spelled (htype : ∀ c ∈ type.toList.head?, Text.isBlank c = false)
    (hcore : Core type name) (hspelled : Spelled type name text) :
    ofText type text = ofCore name := by
  have hstripped : strip type (Text.trimList text.toList) = name.toList := by
    cases hspelled with
    | bare hbefore hafter =>
        rw [String.toList_append, String.toList_append,
          Text.trimList_around (List.all_eq_true.mp hbefore) (List.all_eq_true.mp hafter)]
        have htrimmed : Text.trimList name.toList = name.toList := by
          simpa [Text.trim] using congrArg String.toList hcore.trimmed
        rw [htrimmed, strip_core hcore]
    | led hbefore hlead hafter =>
        rw [String.toList_append, String.toList_append,
          Text.trimList_around (List.all_eq_true.mp hbefore) (List.all_eq_true.mp hafter),
          String.toList_append, trimList_lead htype hlead hcore, strip_lead hlead]
  rw [ofText, hstripped, String.ofList_toList, ofCore]

end Core

end Method

/-! ## Requests -/

/-- Replies to the same request under two spellings of its method: they differ at most in an
error that repeats the spelling. -/
structure Reply.Alike (spelling other : String) (reply again : Reply) : Prop where
  success : again.success = reply.success
  value : again.value = reply.value
  code : again.code = reply.code
  error : again.error = reply.error ∨
    (reply.error = some (Failure.methodNotFound spelling).message ∧
      again.error = some (Failure.methodNotFound other).message)

theorem Reply.Alike.refl (spelling other : String) (reply : Reply) :
    reply.Alike spelling other reply :=
  ⟨rfl, rfl, rfl, Or.inl rfl⟩

/-- The same request under two spellings of its method, over a link. -/
structure AnsweredAlike {σ : Type} [TagSession σ] (p : PassThrough) (request : Request)
    (spelling other : String) (link : Link σ) : Prop where
  reply : Reply.Alike spelling other (link.run (p.answer { request with method := spelling })).1
    (link.run (p.answer { request with method := other })).1
  calls : link.exchanges (p.answer { request with method := other }) =
    link.exchanges (p.answer { request with method := spelling })
  after : (link.run (p.answer { request with method := other })).2 =
    (link.run (p.answer { request with method := spelling })).2
  counted : p.countedName { request with method := other } =
    p.countedName { request with method := spelling }

namespace PassThrough

variable {p : PassThrough} {spelling other : String}

theorem countedName_of_sameMethod
    (hsame : Method.ofText p.type spelling = Method.ofText p.type other) (request : Request) :
    p.countedName { request with method := spelling } =
      p.countedName { request with method := other } := by
  unfold countedName
  rw [hsame]

/-- The method decides what is planned, but for a method that is not found. -/
theorem plan_of_sameMethod
    (hsame : Method.ofText p.type spelling = Method.ofText p.type other) (request : Request) :
    p.plan { request with method := spelling } = p.plan { request with method := other } ∨
      (p.plan { request with method := spelling } = .error (.methodNotFound spelling) ∧
        p.plan { request with method := other } = .error (.methodNotFound other)) := by
  cases hdevice : p.device request.device with
  | error failure => simp [plan, hdevice, bind, Except.bind]
  | ok device =>
      cases hmethod : Method.ofText p.type other with
      | read | write => simp [plan, hdevice, hsame, hmethod, bind, Except.bind]
      | declared name =>
          cases hfound : device.method? name <;>
            simp [plan, hdevice, hsame, hmethod, planDeclared, hfound, bind, Except.bind]

theorem answeredAlike_of_sameMethod {σ : Type} [TagSession σ]
    (hsame : Method.ofText p.type spelling = Method.ofText p.type other) (request : Request)
    (link : Link σ) : AnsweredAlike p request spelling other link := by
  have hcounted := countedName_of_sameMethod hsame request
  rcases plan_of_sameMethod hsame request with hplan | ⟨hplan, hother⟩
  · have hanswer : p.answer { request with method := spelling } =
        p.answer { request with method := other } := by
      rw [answer, answer, hplan, hcounted]
    constructor
    case reply =>
      rw [hanswer]
      exact .refl _ _ _
    case calls | after => rw [hanswer]
    case counted => exact hcounted.symm
  · obtain ⟨hrun, hcalls⟩ := run_answer_of_error hplan link
    obtain ⟨hrunOther, hcallsOther⟩ := run_answer_of_error hother link
    constructor
    case reply =>
      rw [hrun, hrunOther]
      exact ⟨rfl, rfl, rfl, Or.inr ⟨rfl, rfl⟩⟩
    case calls => rw [hcalls, hcallsOther]
    case after =>
      rw [hrun, hrunOther, hcounted]
      rfl
    case counted => exact hcounted.symm

/-- However a method is spelled, the request is the same.  The words for reading are one method
and the words for writing another, and every other name is looked up among the methods of the
device exactly as it stands between blanks and behind a lead-in. -/
theorem spellings_agree (p : PassThrough) {name : String}
    (htype : ∀ c ∈ p.type.toList.head?, Text.isBlank c = false) (hcore : Method.Core p.type name)
    (hspelled : Method.Spelled p.type name spelling) :
    (Text.lower name ∈ Method.readWords → Method.ofText p.type spelling = .read) ∧
    (Text.lower name ∈ Method.writeWords → Method.ofText p.type spelling = .write) ∧
    (Text.lower name ∉ Method.readWords → Text.lower name ∉ Method.writeWords →
      Method.ofText p.type spelling = .declared name ∧
        ∀ request : Request, p.plan { request with method := spelling } =
          p.device request.device >>= fun device =>
            planDeclared device name spelling request.params) ∧
    ∀ {another other : String}, Method.SameMethod name another → Method.Core p.type another →
      Method.Spelled p.type another other → ∀ (request : Request) {σ : Type} [TagSession σ]
        (link : Link σ), AnsweredAlike p request spelling other link := by
  have hmethod := Method.ofText_of_spelled htype hcore hspelled
  refine ⟨?_, ?_, ?_, ?_⟩
  · intro hread
    rw [hmethod, Method.ofCore_of_read hread]
  · intro hwrite
    rw [hmethod, Method.ofCore_of_write hwrite]
  · intro hread hwrite
    have hdeclared : Method.ofText p.type spelling = .declared name := by
      rw [hmethod, Method.ofCore_of_other hread hwrite]
    refine ⟨hdeclared, fun request => ?_⟩
    rw [plan, hdeclared]
  · intro another other hsame hanother hother request σ _ link
    have hsameMethod : Method.ofText p.type spelling = Method.ofText p.type other := by
      rw [hmethod, Method.ofText_of_spelled htype hanother hother, hsame.ofCore_eq]
    exact answeredAlike_of_sameMethod hsameMethod request link

/-- A device with a method whose name is not in ASCII. -/
def oven : Device where
  name := "oven"
  profile := "default"
  tags := []
  strategy := none
  updates := []
  methods := [("Größe", { name := "Größe", path := "oven.size" })]
  converter := .standard

/-- The type of its connector is not in ASCII either. -/
def bakery : PassThrough := ⟨[("oven", oven)], "Öfen"⟩

def sizing : Request where
  device := "oven"
  method := "Größe"
  params := .int 3

/-- A word with the lead-in in capitals and between blanks. -/
def shouted (word : String) : String := "\u00a0" ++ ("ÖFEN_" ++ word) ++ " "

theorem spelled_shouted (word : String) : Method.Spelled bakery.type word (shouted word) :=
  .led (by decide) (by decide) (by decide)

/-- The size can be set in this spelling too, and a word for reading is another one for it. -/
theorem spellings_agree_of_oven :
    AnsweredAlike bakery sizing "Größe" (shouted "Größe") plantLink ∧
      (plantLink.run (bakery.answer { sizing with method := shouted "Größe" })).2.session.tags.find?
        "oven.size" = some ⟨.int 3, .good, none⟩ ∧
      AnsweredAlike bakery sizing "Get" (shouted "READ") plantLink := by
  have htype : ∀ c ∈ bakery.type.toList.head?, Text.isBlank c = false := by
    intro c hc
    obtain rfl : 'Ö' = c := Option.some.inj hc
    decide
  have hsize : Method.Core bakery.type "Größe" := ⟨by decide, by decide⟩
  have hget : Method.Core bakery.type "Get" := ⟨by decide, by decide⟩
  have hread : Method.Core bakery.type "READ" := ⟨by decide, by decide⟩
  refine ⟨?_, rfl, ?_⟩
  · exact (bakery.spellings_agree htype hsize (.self _ _)).2.2.2 (Or.inl rfl) hsize
      (spelled_shouted "Größe") sizing plantLink
  · exact (bakery.spellings_agree htype hget (.self _ _)).2.2.2 (Or.inr (Or.inl (by decide))) hread
      (spelled_shouted "READ") sizing plantLink

end PassThrough

end TagRelay.Remote
