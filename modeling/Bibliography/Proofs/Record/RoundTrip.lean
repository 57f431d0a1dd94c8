import Bibliography.Proofs.Json.Invariants
import Bibliography.Proofs.Json.Reading
import Bibliography.Record.Json

/-! # Records as text, and back

A record that was read from JSON is the same when it is written and read again, in whatever order
its fields are written and whatever blanks stand between the tokens. What makes it so is that a role
is read by its name: no reader returns a role of a name of its own that is kept as another one.
-/

namespace Bibliography
set_option autoImplicit false
open Json Json.Reader

/-! ## Roles -/

/-- The creator's role is the one that goes by its name. -/
def Creator.KnownByName (c : Creator) : Prop := Role.ofName c.role.name = c.role

theorem Role.ofName_name_ofName (s : Text) : ofName (ofName s).name = ofName s := by
  rw [name_ofName]

theorem Creator.gives_shape : Gives Creator.shape.read Creator.KnownByName := by
  refine Shape.gives_read rfl (List.forall_mem_cons.2 ⟨?_, List.forall_mem_cons.2 ⟨?_,
    List.forall_mem_singleton.2 ?_⟩⟩)
  · exact fun c hc => Member.gives_of (gives_true _) (fun _ _ => hc) _ _
  · exact fun c hc => Member.gives_of (gives_true _) (fun _ _ => hc) _ _
  · exact fun c _ => Member.gives_of (gives_true _) (fun s _ => Role.ofName_name_ofName s) _ _

namespace Record

/-- Every creator of the record is known by name. -/
def KnownByName (r : Record) : Prop := ∀ c ∈ r.creators, c.KnownByName

theorem gives_shape : Gives shape.read KnownByName := by
  have keep : ∀ {β : Type} {value : Reader β} {store : Record → β → Record} (name : Text)
      (required : Bool), (∀ r x, (store r x).creators = r.creators) →
      ∀ r, KnownByName r → Gives ((Member.of name required value store).read r) KnownByName :=
    fun name required hstore r hr =>
      Member.gives_of (gives_true _) (fun x _ c hc => hr c (hstore r x ▸ hc)) name required
  have store : ∀ r, KnownByName r → Gives ((Member.of "creators" false
      (Reader.array Creator.shape.read) fun r v => { r with creators := v }).read r) KnownByName :=
    fun r _ => Member.gives_of (gives_array Creator.gives_shape) (fun _ hcs => hcs) _ _
  refine Shape.gives_read (fun c hc => absurd hc List.not_mem_nil) ?_
  unfold shape
  repeat rw [List.forall_mem_cons]
  exact ⟨keep _ _ fun _ _ => rfl, keep _ _ fun _ _ => rfl, keep _ _ fun _ _ => rfl, store,
    keep _ _ fun _ _ => rfl, keep _ _ fun _ _ => rfl, keep _ _ fun _ _ => rfl,
    keep _ _ fun _ _ => rfl, keep _ _ fun _ _ => rfl, keep _ _ fun _ _ => rfl,
    fun m hm => absurd hm List.not_mem_nil⟩

end Record

/-! ## Reading what was written -/

theorem Creator.accepts_toValue {c : Creator} (h : c.KnownByName) :
    Accepts Creator.shape.read c.toValue c := by
  have hrole : ∀ a : Creator, Accepts
      ((Member.of "creatorType" false Reader.text fun c v => { c with role := .ofName v }).read a)
      (.text c.role.name) { a with role := c.role } := by
    intro a
    have haccepts := Member.accepts_of (accepts_text c.role.name) "creatorType" false
      (fun (c : Creator) v => { c with role := .ofName v }) a
    rwa [h] at haccepts
  obtain ⟨last, first, role⟩ := c
  cases first with
  | none =>
    exact Shape.accepts_read ["lastName", "creatorType"] rfl (by decide) (by decide)
      (.member rfl (Member.accepts_of (accepts_text last) _ _ _ _)
        (.member rfl (hrole _) (.done _)))
  | some first =>
    exact Shape.accepts_read ["lastName", "firstName", "creatorType"] rfl (by decide)
      (by decide)
      (.member rfl (Member.accepts_of (accepts_text last) _ _ _ _)
        (.member rfl (Member.accepts_of (accepts_optionalText first) _ _ _ _)
          (.member rfl (hrole _) (.done _))))

theorem accepts_tag (t : Text) : Accepts tagShape.read (.object [("tag", .text t)]) t :=
  Shape.accepts_read ["tag"] rfl (by decide) (by decide)
    (.member rfl (Member.accepts_of (accepts_text t) _ _ _ _) (.done _))

namespace Record

theorem accepts_toValue {r : Record} (h : r.KnownByName) : Accepts shape.read r.toValue r := by
  have hcreators : Accepts (Reader.array Creator.shape.read)
      (.array (r.creators.map Creator.toValue)) r.creators :=
    accepts_array (List.forall₂_map_left_iff.2
      (List.forall₂_same.2 fun c hc => Creator.accepts_toValue (h c hc)))
  have htags : Accepts (Reader.array tagShape.read)
      (.array (r.tags.map fun t => .object [("tag", .text t)])) r.tags :=
    accepts_array (List.forall₂_map_left_iff.2 (List.forall₂_same.2 fun t _ => accepts_tag t))
  have hfields : Accepts (Reader.dict Reader.text)
      (.object (r.fields.pairs.map fun p => (p.1, .text p.2))) r.fields := by
    have hpairs : List.Forall₂ (fun m p => m.1 = p.1 ∧ Accepts Reader.text m.2 p.2)
        (r.fields.pairs.map fun p => (p.1, Value.text p.2)) r.fields.pairs :=
      List.forall₂_map_left_iff.2 (List.forall₂_same.2 fun p _ => ⟨rfl, accepts_text p.2⟩)
    have hdict := accepts_dict hpairs
    rwa [Dict.ofList_pairs] at hdict
  have htext : ∀ (s name : Text) (required : Bool) (store : Record → Text → Record) (a : Record),
      Accepts ((Member.of name required Reader.text store).read a) (.text s) (store a s) :=
    fun s => Member.accepts_of (accepts_text s)
  exact Shape.accepts_read ["itemID", "key", "itemType", "creators", "title", "date",
      "extra", "tags", "pages", "fields"] rfl (by decide) (by decide)
    (.member rfl (htext r.itemId _ _ _ _) (.member rfl (htext r.key _ _ _ _)
      (.member rfl (htext r.itemType _ _ _ _)
        (.member rfl (Member.accepts_of hcreators _ _ _ _)
          (.member rfl (htext r.title _ _ _ _) (.member rfl (htext r.date _ _ _ _)
            (.member rfl (htext r.extra _ _ _ _)
              (.member rfl (Member.accepts_of htags _ _ _ _)
                (.member rfl (htext r.pages _ _ _ _)
                  (.member rfl (Member.accepts_of hfields _ _ _ _) (.done _)))))))))))

/-! ## Round trips -/

/-- A record that was read is read again from what is written for it, in whatever order its fields
are written and whatever blanks stand in between. A creator of any role is read with the role of
that name. -/
theorem ofJson_toJson {s : Text} {r : Record} (h : ofJson s = .ok r) :
    ofJson r.toJson = .ok r ∧
      (∀ fields : Dict Text, fields.pairs.Perm r.fields.pairs →
        ∀ b t ending, Spaces b → IsLayout (toValue { r with fields }) t → Spaces ending →
          ofJson (b ++ (t ++ ending)) = .ok { r with fields }) ∧
      ∀ name b t ending, Spaces b → IsLayout (.object [("creatorType", .text name)]) t →
        Spaces ending → ∃ c, whole Creator.shape.read (b ++ (t ++ ending)) = .ok c ∧
          c.role.name = name := by
  have hknown : r.KnownByName := gives_shape.whole h
  refine ⟨?_, ?_, ?_⟩
  · have hread := (accepts_toValue hknown).whole spaces_nil (isLayout_compact r.toValue) spaces_nil
    rwa [List.append_nil] at hread
  · intro fields _ b t ending hb ht hending
    have hknown' : KnownByName { r with fields } := hknown
    exact (accepts_toValue hknown').whole hb ht hending
  · intro name b t ending hb ht hending
    have haccepts : Accepts Creator.shape.read (.object [("creatorType", .text name)])
        ⟨[], none, .ofName name⟩ :=
      Shape.accepts_read ["creatorType"] rfl (by decide) (by decide)
        (.member rfl (Member.accepts_of (accepts_text name) _ _ _ _) (.done _))
    exact ⟨_, haccepts.whole hb ht hending, Role.name_ofName name⟩

/-- A film as a list of its members, its creators in both forms. -/
def listedFilm : Text :=
  r#"["7", "K", "film", [["M\u00fcller", null, "director"],"# ++ "\n" ++
    r#"{"creatorType":"editor", "firstName":""}], "# ++
    r#""\ud83c\udf0a", "2020", "a\nb", "# ++
    r#"[["sea"], {"tag":"\u0001"}], "", "# ++
    r#"{"b":"1", "a":"2", "b":"3"}] "#

theorem ofJson_toJson_listedFilm :
    ∃ r, ofJson listedFilm = .ok r ∧ ofJson r.toJson = .ok r ∧
      (∃ fields : Dict Text, fields.pairs = r.fields.pairs.reverse ∧
        ofJson ("\n" ++ ((toValue { r with fields }).pretty ++ " ")) = .ok { r with fields }) ∧
      ∃ c, whole Creator.shape.read ((Value.object [("creatorType", .text "director")]).compact) =
        .ok c ∧ c.role.name = "director" := by
  have hread : (ofJson listedFilm).toOption.isSome = true := by decide +kernel
  cases h : ofJson listedFilm with
  | error fault =>
    rw [h] at hread
    exact absurd hread Bool.false_ne_true
  | ok r =>
    obtain ⟨hcompact, hlayout, hrole⟩ := ofJson_toJson h
    have hdistinct : (r.fields.pairs.reverse.map Prod.fst).Nodup :=
      ((List.reverse_perm _).map Prod.fst).nodup_iff.2 r.fields.distinct
    refine ⟨r, rfl, hcompact, ⟨⟨r.fields.pairs.reverse, hdistinct⟩, rfl, ?_⟩, ?_⟩
    · exact hlayout _ (List.reverse_perm _) "\n" _ " " (by simp [Spaces, isSpace])
        (isLayout_pretty _) (by simp [Spaces, isSpace])
    · exact hrole "director" [] _ [] spaces_nil (isLayout_compact _) spaces_nil

end Record
end Bibliography
