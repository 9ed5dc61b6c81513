import ReliableRouting.Route.Weigher

/-!
# Paths

A path is a sequence of links with a cost. Built from links by hand, it has to be chained,
each link starting at the element where the one before ends, and may visit no element twice.
-/

namespace ReliableRouting

/-- Links in the order of travel, at least one, and what they cost. -/
structure Path where
  links : List Link
  cost : Weight
  links_ne_nil : links ≠ []
deriving DecidableEq

/-- The elements that links visit in turn, beginning where the first one starts. -/
def stopsOf : List Link → List Element
  | [] => []
  | l :: rest => l.src.element :: (l :: rest).map (·.dst.element)

/-- Each link but the first starts at the element where the one before it ends. -/
def IsChain : List Link → Prop
  | [] => True
  | [_] => True
  | l :: m :: rest => l.dst.element = m.src.element ∧ IsChain (m :: rest)

instance decidableIsChain : (links : List Link) → Decidable (IsChain links)
  | [] => .isTrue trivial
  | [_] => .isTrue trivial
  | l :: m :: rest =>
    haveI := decidableIsChain (m :: rest)
    inferInstanceAs (Decidable (l.dst.element = m.src.element ∧ IsChain (m :: rest)))

namespace Path

/-- The path along links, if they are chained and lead through no element twice. -/
def ofLinks? (w : Weigher) (links : List Link) : Option Path :=
  if h : links ≠ [] ∧ IsChain links ∧ (stopsOf links).Nodup then
    some ⟨links, w.total links, h.1⟩
  else
    none

/-- What costing links by hand adds to the journal. Links that are not chained are not
costed. -/
def ofLinksJournal (w : Weigher) (links : List Link) : Journal :=
  if IsChain links then links.flatMap w.journal else []

/-- The first link. -/
def first (p : Path) : Link :=
  p.links.head p.links_ne_nil

/-- The last link. -/
def last (p : Path) : Link :=
  p.links.getLast p.links_ne_nil

/-- The connect point where the path starts. -/
def src (p : Path) : ConnectPoint :=
  p.first.src

/-- The connect point where the path ends. -/
def dst (p : Path) : ConnectPoint :=
  p.last.dst

/-- The elements visited in turn, both ends included. -/
def stops (p : Path) : List Element :=
  stopsOf p.links

/-- No element is visited twice. -/
def isLoopFree (p : Path) : Bool :=
  decide p.stops.Nodup

/-- The links that count for aggregates: all but those that attach hosts. -/
def coreLinks (p : Path) : List Link :=
  p.links.filter fun l => !l.isAttachment

/-- The path in the opposite direction. Its cost is carried over, not weighed anew. -/
def reversed (p : Path) : Path where
  links := (p.links.map Link.reversed).reverse
  cost := p.cost
  links_ne_nil := by simp [p.links_ne_nil]

@[simp]
theorem reversed_reversed (p : Path) :
  p.reversed.reversed = p
  := by
  simp [reversed, Function.comp_def]

/-- The texts of the links joined by arrows. -/
def linksText (links : List String) : String :=
  String.intercalate "==>" links

/-- The links and the cost. -/
def text (p : Path) : String :=
  linksText (p.links.map Link.text) ++ "; cost=" ++ p.cost.text

end Path

end ReliableRouting
