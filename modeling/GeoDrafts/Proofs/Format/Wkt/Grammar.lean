import GeoDrafts.Format.Wkt.Phrase

/-!
The grammar of well-known text. A derivation is a tree. The tokens of a tree are the sentence that
it derives, and its geometry is what the sentence means.
-/

namespace GeoDrafts.Wkt

inductive Dimensions where
  | unsaid
  | z
  | m
  | zm

namespace Dimensions

def letters : Dimensions → String
  | unsaid => ""
  | z => "Z"
  | m => "M"
  | zm => "ZM"

def words : Dimensions → List Token
  | unsaid => []
  | d => [.word d.letters]

end Dimensions

/-- What a geometry starts with besides its kind: letters at the end of the word for it, and
letters in a word after it. -/
structure Heading where
  glued : Dimensions
  separate : Dimensions

def Heading.tokens (kind : GeometryKind) (h : Heading) : List Token :=
  .word (kindWord kind ++ h.glued.letters) :: h.separate.words

/-- Two to four numbers. -/
structure Position where
  x : Float
  y : Float
  more : List Float
  length_more : more.length ≤ 2

namespace Position

def tokens (p : Position) : List Token := (p.x :: p.y :: p.more).map .number

def coord (p : Position) : Coord := ⟨p.x, p.y⟩

end Position

def afterCommas : List (List Token) → List Token
  | [] => []
  | item :: more => .comma :: (item ++ afterCommas more)

theorem length_le_afterCommas (items : List (List Token)) :
    items.length ≤ (afterCommas items).length := by
  induction items with
  | nil => exact Nat.le_refl _
  | cons item more ih =>
    simp only [afterCommas, List.length_cons, List.length_append]
    omega

def enclose (first : List Token) (more : List (List Token)) : List Token :=
  .opening :: (first ++ (afterCommas more ++ [.closing]))

theorem enclose_append (first : List Token) (more : List (List Token)) (after : List Token) :
    enclose first more ++ after =
      .opening :: (first ++ (afterCommas more ++ .closing :: after)) := by
  simp [enclose]

structure Row (β : Type) where
  first : β
  more : List β

namespace Row

variable {α β : Type}

def items (r : Row β) : List β := r.first :: r.more

def tokens (write : β → List Token) (r : Row β) : List Token :=
  enclose (write r.first) (r.more.map write)

def values (value : β → α) (r : Row β) : List α := r.items.map value

end Row

inductive ListedPoint where
  | bare (p : Position)
  | enclosed (p : Position)

namespace ListedPoint

def tokens : ListedPoint → List Token
  | bare p => p.tokens
  | enclosed p => enclose p.tokens []

def coord : ListedPoint → Coord
  | bare p => p.coord
  | enclosed p => p.coord

end ListedPoint

/-- What stands after a heading: the items in parentheses, or `EMPTY` if there are none. -/
def bodyTokens : List (List Token) → List Token
  | [] => [.word "EMPTY"]
  | first :: more => enclose first more

/-- The content of a geometry that is not a collection. -/
inductive Content where
  | point (position : Option Position)
  | multiPoint (points : List ListedPoint)
  | lineString (line : List Position)
  | linearRing (ring : List Position)
  | multiLineString (lines : List (Row Position))
  | polygon (rings : List (Row Position))
  | multiPolygon (polygons : List (Row (Row Position)))

namespace Content

def kind : Content → GeometryKind
  | point _ => .point
  | multiPoint _ => .multiPoint
  | lineString _ => .lineString
  | linearRing _ => .linearRing
  | multiLineString _ => .multiLineString
  | polygon _ => .polygon
  | multiPolygon _ => .multiPolygon

def tokens : Content → List Token
  | point position => bodyTokens (position.toList.map Position.tokens)
  | multiPoint points => bodyTokens (points.map ListedPoint.tokens)
  | lineString positions | linearRing positions => bodyTokens (positions.map Position.tokens)
  | multiLineString rows | polygon rows => bodyTokens (rows.map (Row.tokens Position.tokens))
  | multiPolygon polygons => bodyTokens (polygons.map (Row.tokens (Row.tokens Position.tokens)))

/-- A point without a position is no geometry. -/
def geometry : Content → Option Geometry
  | point position => position.map fun p => .point p.coord
  | multiPoint points => some (.multiPoint (points.map ListedPoint.coord))
  | lineString line => some (.lineString (line.map Position.coord))
  | linearRing ring => some (.linearRing (ring.map Position.coord))
  | multiLineString lines => some (.multiLineString (lines.map (Row.values Position.coord)))
  | polygon rings => some (.polygon (rings.map (Row.values Position.coord)))
  | multiPolygon polygons =>
    some (.multiPolygon (polygons.map (Row.values (Row.values Position.coord))))

end Content

/-- A derivation of a geometry. -/
inductive Tree where
  | simple (heading : Heading) (content : Content)
  | collection (heading : Heading) (children : List Tree)

namespace Tree

def tokens : Tree → List Token
  | simple heading content => heading.tokens content.kind ++ content.tokens
  | collection heading children =>
    heading.tokens .geometryCollection ++ bodyTokens (children.map tokens)

/-- Children that are no geometry are left out. -/
def geometry : Tree → Option Geometry
  | simple _ content => content.geometry
  | collection _ children => some (.collection (children.filterMap geometry))

/-- The greatest number of collections with children that are open at once. -/
def depth : Tree → Nat
  | simple _ _ => 0
  | collection _ children => (children.map fun child => depth child + 1).foldr max 0

theorem depth_collection_le (heading : Heading) (children : List Tree) (n : Nat) :
    (collection heading children).depth ≤ n ↔ ∀ child ∈ children, child.depth + 1 ≤ n := by
  rw [depth]
  induction children with
  | nil => simp
  | cons child children ih =>
    rw [List.map_cons, List.foldr_cons, Nat.max_le, ih, List.forall_mem_cons]

end Tree

/-! ## Headings -/

@[simp]
theorem kindOfWord?_kindWord (kind : GeometryKind) (d : Dimensions) :
    kindOfWord? (kindWord kind ++ d.letters) = some kind := by
  cases kind <;> cases d <;> decide

/-- A word names a kind just if it is the word of that kind with some letters after it. -/
theorem kindOfWord?_eq_some_iff {word : String} {kind : GeometryKind} :
    kindOfWord? word = some kind ↔ ∃ d : Dimensions, word = kindWord kind ++ d.letters := by
  constructor
  · intro h
    have hword := List.find?_some h
    rw [Bool.or_eq_true, beq_iff_eq, List.any_eq_true] at hword
    rcases hword with hbare | ⟨letters, hletters, hword⟩
    · exact ⟨.unsaid, by rw [← hbare]; exact (String.append_empty).symm⟩
    · have hword := (beq_iff_eq.mp hword).symm
      simp only [dimensionWords, List.mem_cons, List.not_mem_nil, or_false] at hletters
      rcases hletters with rfl | rfl | rfl
      · exact ⟨.z, hword⟩
      · exact ⟨.m, hword⟩
      · exact ⟨.zm, hword⟩
  · rintro ⟨d, rfl⟩
    exact kindOfWord?_kindWord kind d

theorem Dimensions.letters_inj {d d' : Dimensions} (h : d.letters = d'.letters) : d = d' := by
  cases d <;> cases d' <;> first | rfl | exact absurd h (by decide)

/-- What may stand after a heading. -/
def StartsBody (ts : List Token) : Prop := (∃ rest, ts = .word "EMPTY" :: rest) ∨
  ∃ rest, ts = .opening :: rest

theorem startsBody_bodyTokens (items : List (List Token)) (rest : List Token) :
    StartsBody (bodyTokens items ++ rest) := by
  cases items with
  | nil => exact .inl ⟨_, rfl⟩
  | cons first more => exact .inr ⟨_, rfl⟩

end GeoDrafts.Wkt
