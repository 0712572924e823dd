import EndpointCountry.Gln.Table

/-!
# Allocated prefixes

The prefixes that the numbering organisations of the countries have been given.
-/

namespace EndpointCountry.Gln

/-- The prefixes of five digits. -/
def fiveDigitRules : List Rule := [⟨1, 9, .of 'U' 'S'⟩]

/-- The prefixes of four digits. -/
def fourDigitRules : List Rule := [⟨1, 9, .of 'U' 'S'⟩]

/-- The prefixes of three digits. -/
def threeDigitRules : List Rule := [
  ⟨1, 19, .of 'U' 'S'⟩, ⟨30, 39, .of 'U' 'S'⟩, ⟨60, 139, .of 'U' 'S'⟩, ⟨300, 379, .of 'F' 'R'⟩,
  .single 380 (.of 'B' 'G'), .single 383 (.of 'S' 'I'), .single 385 (.of 'H' 'R'),
  .single 387 (.of 'B' 'A'), .single 389 (.of 'M' 'E'), ⟨400, 440, .of 'D' 'E'⟩,
  ⟨450, 459, .of 'J' 'P'⟩, ⟨490, 499, .of 'J' 'P'⟩, ⟨460, 469, .of 'R' 'U'⟩,
  .single 470 (.of 'K' 'G'), .single 471 (.of 'C' 'N'), .single 474 (.of 'E' 'E'),
  .single 475 (.of 'L' 'V'), .single 476 (.of 'A' 'Z'), .single 477 (.of 'L' 'T'),
  .single 478 (.of 'U' 'Z'), .single 479 (.of 'L' 'K'), .single 480 (.of 'P' 'H'),
  .single 481 (.of 'B' 'Y'), .single 482 (.of 'U' 'A'), .single 483 (.of 'T' 'M'),
  .single 484 (.of 'M' 'D'), .single 485 (.of 'A' 'M'), .single 486 (.of 'G' 'E'),
  .single 487 (.of 'K' 'Z'), .single 488 (.of 'T' 'J'), .single 489 (.of 'H' 'K'),
  ⟨500, 509, .of 'G' 'B'⟩, ⟨520, 521, .of 'G' 'R'⟩, .single 528 (.of 'L' 'B'),
  .single 529 (.of 'C' 'Y'), .single 530 (.of 'A' 'L'), .single 531 (.of 'M' 'K'),
  .single 535 (.of 'M' 'T'), .single 539 (.of 'I' 'E'), ⟨540, 549, .of 'B' 'E'⟩,
  .single 560 (.of 'P' 'T'), .single 569 (.of 'I' 'S'), ⟨570, 579, .of 'D' 'K'⟩,
  .single 590 (.of 'P' 'L'), .single 594 (.of 'R' 'O'), .single 599 (.of 'H' 'U'),
  ⟨600, 601, .of 'Z' 'A'⟩, .single 603 (.of 'G' 'H'), .single 604 (.of 'S' 'N'),
  .single 607 (.of 'O' 'M'), .single 608 (.of 'B' 'H'), .single 609 (.of 'M' 'U'),
  .single 611 (.of 'M' 'A'), .single 613 (.of 'D' 'Z'), .single 615 (.of 'N' 'G'),
  .single 616 (.of 'K' 'E'), .single 617 (.of 'C' 'M'), .single 618 (.of 'C' 'I'),
  .single 619 (.of 'T' 'N'), .single 620 (.of 'T' 'Z'), .single 621 (.of 'S' 'Y'),
  .single 622 (.of 'E' 'G'), .single 624 (.of 'L' 'Y'), .single 625 (.of 'J' 'O'),
  .single 626 (.of 'I' 'R'), .single 627 (.of 'K' 'W'), .single 628 (.of 'S' 'A'),
  .single 629 (.of 'A' 'E'), .single 630 (.of 'Q' 'A'), .single 631 (.of 'N' 'A'),
  ⟨640, 649, .of 'F' 'I'⟩, ⟨680, 681, .of 'C' 'N'⟩, ⟨690, 699, .of 'C' 'N'⟩,
  ⟨700, 709, .of 'N' 'O'⟩, .single 729 (.of 'I' 'L'), ⟨730, 739, .of 'S' 'E'⟩,
  .single 740 (.of 'G' 'T'), .single 741 (.of 'S' 'V'), .single 742 (.of 'H' 'N'),
  .single 743 (.of 'N' 'I'), .single 744 (.of 'C' 'R'), .single 745 (.of 'P' 'A'),
  .single 746 (.of 'D' 'O'), .single 750 (.of 'M' 'X'), ⟨754, 755, .of 'C' 'A'⟩,
  .single 759 (.of 'V' 'E'), ⟨760, 769, .of 'C' 'H'⟩, ⟨770, 771, .of 'C' 'O'⟩,
  .single 773 (.of 'U' 'Y'), .single 775 (.of 'P' 'E'), .single 777 (.of 'B' 'O'),
  ⟨778, 779, .of 'A' 'R'⟩, .single 780 (.of 'C' 'L'), .single 784 (.of 'P' 'Y'),
  .single 786 (.of 'E' 'C'), ⟨789, 790, .of 'B' 'R'⟩, ⟨800, 839, .of 'I' 'T'⟩,
  ⟨840, 849, .of 'E' 'S'⟩, .single 850 (.of 'C' 'U'), .single 858 (.of 'S' 'K'),
  .single 859 (.of 'C' 'Z'), .single 860 (.of 'R' 'S'), .single 865 (.of 'M' 'N'),
  .single 867 (.of 'K' 'P'), ⟨868, 869, .of 'T' 'R'⟩, ⟨870, 879, .of 'N' 'L'⟩,
  ⟨880, 881, .of 'K' 'R'⟩, .single 883 (.of 'M' 'M'), .single 884 (.of 'K' 'H'),
  .single 885 (.of 'T' 'H'), .single 888 (.of 'S' 'G'), .single 890 (.of 'I' 'N'),
  .single 893 (.of 'V' 'N'), .single 896 (.of 'P' 'K'), .single 899 (.of 'I' 'D'),
  ⟨900, 919, .of 'A' 'T'⟩, ⟨930, 939, .of 'A' 'U'⟩, ⟨940, 949, .of 'N' 'Z'⟩,
  .single 955 (.of 'M' 'Y'), .single 958 (.of 'C' 'N')]

/-- The allocated prefixes of three digits, of four, or else of five. -/
def allocated : Nat → List Rule
  | 3 => threeDigitRules
  | 4 => fourDigitRules
  | _ => fiveDigitRules

end EndpointCountry.Gln
