import LongPoll.Text.Packed

/-!
Canonical composition of characters in tables, after Unicode 15.0.

Only lower-case letters and their like are listed, which is what the names of hosts are made of.
-/

namespace LongPoll.Text.Composition

/-- The combining classes. A row has a length and a class. -/
def classLines : List String := [
  "Clc.0 Cl.6e C1.6g C4.64 C1.6g C1.60 C5.64 C2.5m C4.64 C2.5m Cb.64 C5.1 C4.64 Ca.6e C3.64",
  "C3.6e C3.64 C3.6e C4.64 C1.6e C1.6g C2.64 C1.6e C1.6h C2.6i C1.6h C2.6i C1.6h Ce.6e C7m.0",
  "C5.6e C7d.0 C1.64 C4.6e C1.64 C3.6e C1.66 C1.64 C6.6e C6.64 C2.6e C1.64 C2.6e C1.66 C1.6c",
  "C1.6e C1.a C1.b C1.c C1.d C1.e C1.f C1.g C1.h C1.i C2.j C1.k C1.l C1.m C1.0 C1.n C1.0 C1.o",
  "C1.p C1.0 C1.6e C1.64 C1.0 C9.i C1s.0 C8.6e C1.u C1.v C1.w C1c.0 C1.r C1.s C1.t C1.u C1.v",
  "C1.w C1.x C1.y C2.6e C2.64 C5.6e C1.64 C2.6e C1.64 Cg.0 C1.z C2t.0 C8.6e C1.0 C4.6e C1.64",
  "C1.6e C2.0 C2.6e C1.0 C1.64 C2.6e C1.64 Cz.0 C1.10 Cu.0 C1.6e C1.64 C2.6e C1.64 C2.6e C3.64",
  "C1.6e C2.64 C1.6e C1.64 C3.6e C1.64 C1.6e C1.64 C1.6e C1.64 C1.6e C1.64 C4.6e C4e.0 C7.6e",
  "C1.64 C1.6e C9.0 C1.64 Co.0 C4.6e C1.0 C9.6e C1.0 C3.6e C1.0 C7.6e C15.0 C5.64 C1m.0 C1.6e",
  "C3.64 C4.6e C16.0 C5.6e C5.64 Cf.6e C1.64 C2.6e C1.64 C2.6e C1.64 C3.6e C3.64 C1.r C1.s C1.t",
  "C3.6e C1.64 C2.6e C2.64 C5.6e C1o.0 C1.7 Cg.0 C1.9 C3.0 C1.6e C1.64 C2.6e C2v.0 C1.7 Cg.0",
  "C1.9 C1c.0 C3.6e C1n.0 C2.7 Cf.0 C4.9 C2z.0 C1.7 Cg.0 C3.9 C30.0 C1.7 Cg.0 C8.9 C3c.0 C3.9",
  "C30.0 C1.7 Cg.0 C8.9 C1.2c C2.2j C2s.0 C1.7 Cg.0 C8.9 C2u.0 C2.9 Cg.0 C1.9 C3g.0 C5.9 C2x.0",
  "C2.2v C5.9 C9.0 C4.2z C30.0 C2.3a C1.9 Cd.0 C4.3e C24.0 C2.64 Cr.0 C1.64 C1.0 C1.64 C1.0",
  "C1.60 C1j.0 C1.3l C2.3m C6.3o C4.3m C2.0 C2.3m C2.6e C1.9 C1.0 C2.6e C1q.0 C1.64 C34.0 C1.7",
  "C1.0 C2.9 C2a.0 C1.64 Cjz.0 C3.6e Cqc.0 Cb.9 Cl.0 C1.9 C4d.0 C1.9 Ca.0 C3.6e C5l.0 C1.6c",
  "C3z.0 C1.66 C1.6e C5.64 C5z.0 C1.6e C1.64 C1z.0 C1.9 Ck.0 Ca.6e C1.64 C1c.0 C5.6e C6.64 C2.6e",
  "C1.64 C1.0 C2.64 C2.6e C2.64 C5.6e C1.64 C4.6e C2t.0 C1.7 Cf.0 C1.9 C12.0 C1.6e C1.64 C7.6e",
  "C1i.0 C2.9 C1m.0 C1.7 Cb.0 Ca.9 C1n.0 C4.7 C45.0 C3.6e C1.0 C1.1 C5.64 C2.6e C4.64 C1.6e C1.0",
  "C7.1 C4.0 C1.64 C6.0 C1.6e C3.0 C2.6e C5i.0 C2.6e C1.64 C7.6e C1.64 C2.6e C1.6i C1.5y C1.64",
  "C1.5m C11.6e C1.6g C2.6c C1.64 C1.62 C1.6e C1.6h C1.64 C1.6e C2.64 Cjz.0 C2.6e C2.1 C4.6e",
  "C3.1 C2.6e C4.0 C1.6e C3.0 C2.1 C1.6e C1.64 C1.6e C2.1 C4.64 Ck.6e C2cr.0 C4.6e C3w.0 C1.9",
  "C2o.0 Cw.6e Cfe.0 C1.62 C1.6c C1.6g C1.66 C2.68 C2x.0 C4.8 Cn9u.0 C1.6e C4.0 Ca.6e Cw.0 C2.6e",
  "C28.0 C2.6e C7o.0 C1.9 C11.0 C4.9 C44.0 C1.9 Cr.0 Ci.6e C1l.0 C3.64 C11.0 Cc.9 C2c.0 C1.7",
  "Cc.0 C1.9 C6n.0 C1.6e C1.0 C2.6e C1.64 C2.0 C2.6e C5.0 C2.6e C1.0 C1.6e C1g.0 Cb.9 C6k.0 C3.9",
  "Cfn2.0 C44.q Cha.0 C7.6e C7.64 Cn.6e Cqg.0 C3n.64 C2o.0 C1.64 C45.0 Ca.6e C1al.0 C1.64 C1.0",
  "C1.6e C14.0 C1.6e C1.1 C5.64 C1.9 C4l.0 C1.6e C5.64 Cft.0 Cc.6e Caj.0 C2.6e C28.0 C3.64 C1y.0",
  "C2.64 C3.6e C1.64 C1.6e C4.64 C1d.0 C1.6e C1.64 C1.6e C1.64 C5c.0 C1.9 C15.0 C1.9 Ce.0 C1.9",
  "C1l.0 C1.9 C1.7 C1x.0 C3.6e C1c.0 C3.9 C1p.0 C1.7 C24.0 C1.9 C9.0 C1.7 C2y.0 C1.9 C1.7 C4y.0",
  "C1.7 C6.9 C23.0 C2.7 Cg.0 C3.9 Cm.0 Cq.6e C5e.0 C1.9 C3.0 C1.7 Cn.0 C1.6e C2r.0 C1.9 C1.7",
  "C6z.0 C1.9 C1.7 C3i.0 C1.9 C3a.0 C1.9 C1.7 C37.0 C5.9 C7d.0 C1.9 C1.7 C76.0 C2.9 C4.0 C1.7",
  "C4c.0 C1.9 C2b.0 C1.9 Ci.0 C9.9 C21.0 C1.9 Cbp.0 C1.9 C76.0 C1.7 C1.0 C2.9 C29.0 C1.9 Cbt.0",
  "C2.9 Cey5.0 C5.1 C1n.0 C7.6e Cxl.0 C2.6 Cf58.0 C1.1 C43q.0 C2.60 C3.1 C3.0 C1.6a Cd.60 C8.64",
  "C2.0 C5.6e C2.64 Cu.0 C4.6e C44.0 C3.6e C2pn.0 C74.6e C1c.0 C7.6e Caf.0 Ci.6e C18.0 C4.6e",
  "Ce4.0 C2.6g C1.64 C1.6e Crk.0 C2a.64 Cy.0 C6.6e C1.7 Cl705.0"]

/-- The characters that two others compose to. A row has the first, the second and the composite. -/
def pairLines : List String := [
  "P2p.lc.68 P2p.ld.69 P2p.le.6a P2p.lf.6b P2p.lk.6c P2p.lm.6d P2r.mf.6f P2t.lc.6g P2t.ld.6h",
  "P2t.le.6i P2t.lk.6j P2x.lc.6k P2x.ld.6l P2x.le.6m P2x.lk.6n P32.lf.6p P33.lc.6q P33.ld.6r",
  "P33.le.6s P33.lf.6t P33.lk.6u P39.lc.6x P39.ld.6y P39.le.6z P39.lk.70 P3d.ld.71 P3d.lk.73",
  "P2p.lg.75 P2p.li.77 P2p.mg.79 P2r.ld.7b P2r.le.7d P2r.lj.7f P2r.lo.7h P2s.lo.7j P2t.lg.7n",
  "P2t.li.7p P2t.lj.7r P2t.mg.7t P2t.lo.7v P2v.le.7x P2v.li.7z P2v.lj.81 P2v.mf.83 P2w.le.85",
  "P2x.lf.89 P2x.lg.8b P2x.li.8d P2x.mg.8f P2y.le.8l P2z.mf.8n P30.ld.8q P30.mf.8s P30.lo.8u",
  "P32.ld.90 P32.mf.92 P32.lo.94 P33.lg.99 P33.li.9b P33.ln.9d P36.ld.9h P36.mf.9j P36.lo.9l",
  "P37.ld.9n P37.le.9p P37.mf.9r P37.lo.9t P38.mf.9v P38.lo.9x P39.lf.a1 P39.lg.a3 P39.li.a5",
  "P39.lm.a7 P39.ln.a9 P39.mg.ab P3b.le.ad P3d.le.af P3e.ld.ai P3e.lj.ak P3e.lo.am P33.m3.bl",
  "P39.m3.c0 P2p.lo.cu P2x.lo.cw P33.lo.cy P39.lo.d0 P70.lg.d2 P70.ld.d4 P70.lo.d6 P70.lc.d8",
  "P6c.lg.db Pfb.lg.dd P6e.lg.df P2v.lo.dj P2z.lo.dl P33.mg.dn Pdn.lg.dp Pia.lo.dr P2y.lo.ds",
  "P2v.ld.dx P32.lc.e1 P6d.ld.e3 P6e.ld.e5 P6w.ld.e7 P2p.lr.e9 P2p.lt.eb P2t.lr.ed P2t.lt.ef",
  "P2x.lr.eh P2x.lt.ej P33.lr.el P33.lt.en P36.lr.ep P36.lt.er P39.lr.et P39.lt.ev P37.me.ex",
  "P38.me.ez P2w.lo.f3 P2p.lj.fb P2t.mf.fd P6u.lg.ff P6t.lg.fh P33.lj.fj Pfj.lg.fl P3d.lg.fn",
  "Pqy.ld.pc Pq9.ld.q4 Pqd.ld.q5 Pqf.ld.q6 Pqh.ld.q7 Pqz.ld.q8 Pqh.lk.qy Pqt.lk.qz Pqn.ld.r0",
  "Pqt.ld.r1 Pqx.ld.r2 Pu0.li.u1 Ptx.lc.uo Ptx.lk.up Ptv.ld.ur Puu.lk.uv Pu2.ld.v0 Pu0.lc.v1",
  "Pub.li.v2 Pvp.lr.vr Pty.li.xu Pts.li.y9 Pts.lk.yb Ptx.li.yf Pyh.lk.yj Pty.lk.yl Ptz.lk.yn",
  "Pu0.lg.yr Pu0.lk.yt Pu6.lk.yv Pyx.lk.yz Pul.lk.z1 Pub.lg.z3 Pub.lk.z5 Pub.ln.z7 Puf.lk.z9",
  "Puj.lk.zd P17r.18z.17m P17r.190.17n P18o.190.17o P17r.191.17p P18q.190.17q P1cl.190.1c0",
  "P1c1.190.1c2 P1ci.190.1cj P1t4.1to.1t5 P1tc.1to.1td P1tf.1to.1tg P1xj.1xa.1xn P1xj.1xz.1xo",
  "P287.28m.288 P287.27y.28b P287.28n.28c P2aa.2c7.2ac P2bq.2bi.2bu P2br.2bi.2bv P2bq.2c7.2bw",
  "P2fa.2fq.2fc P2in.2j9.2io P2iu.2j9.2iv P2iu.2ja.2iw P2iu.2iq.2iy P2iy.2j9.2iz P2me.2m6.2mi",
  "P2mf.2m6.2mj P2me.2mv.2mk P2qh.2q2.2qi P2qh.2q7.2qk P2qk.2q2.2ql P2qh.2qn.2qm P36t.372.36u",
  "P5c5.5dh.5c6 P5c7.5dh.5c8 P5c9.5dh.5ca P5cb.5dh.5cc P5cd.5dh.5ce P5ch.5dh.5ci P5dm.5dh.5dn",
  "P5do.5dh.5dp P5dq.5dh.5ds P5dr.5dh.5dt P5du.5dh.5dv P2p.md.5xd P2q.lj.5xf P2q.mb.5xh",
  "P2q.mp.5xj P6f.ld.5xl P2s.lj.5xn P2s.mb.5xp P2s.mp.5xr P2s.mf.5xt P2s.ml.5xv P7n.lc.5xx",
  "P7n.ld.5xz P2t.ml.5y1 P2t.mo.5y3 Pfd.li.5y5 P2u.lj.5y7 P2v.lg.5y9 P2w.lj.5yb P2w.mb.5yd",
  "P2w.lk.5yf P2w.mf.5yh P2w.mm.5yj P2x.mo.5yl P6n.ld.5yn P2z.ld.5yp P2z.mb.5yr P2z.mp.5yt",
  "P30.mb.5yv P5yv.lg.5yx P30.mp.5yz P30.ml.5z1 P31.ld.5z3 P31.lj.5z5 P31.mb.5z7 P32.lj.5z9",
  "P32.mb.5zb P32.mp.5zd P32.ml.5zf P6t.ld.5zh P6t.lk.5zj P99.lc.5zl P99.ld.5zn P34.ld.5zp",
  "P34.lj.5zr P36.lj.5zt P36.mb.5zv P5zv.lg.5zx P36.mp.5zz P37.lj.601 P37.mb.603 P9n.lj.605",
  "P9t.lj.607 P603.lj.609 P38.lj.60b P38.mb.60d P38.mp.60f P38.ml.60h P39.mc.60j P39.mo.60l",
  "P39.ml.60n Pa1.ld.60p Pa3.lk.60r P3a.lf.60t P3a.mb.60v P3b.lc.60x P3b.ld.60z P3b.lk.611",
  "P3b.lj.613 P3b.mb.615 P3c.lj.617 P3c.lk.619 P3d.lj.61b P3e.le.61d P3e.mb.61f P3e.mp.61h",
  "P2w.mp.61i P38.lk.61j P3b.lm.61k P3d.lm.61l P2p.mb.61t P2p.ll.61v P6a.ld.61x P6a.lc.61z",
  "P6a.ll.621 P6a.lf.623 P61t.le.625 P77.ld.627 P77.lc.629 P77.ll.62b P77.lf.62d P61t.li.62f",
  "P2t.mb.62h P2t.ll.62j P2t.lf.62l P6i.ld.62n P6i.lc.62p P6i.ll.62r P6i.lf.62t P62h.le.62v",
  "P2x.ll.62x P2x.mb.62z P33.mb.631 P33.ll.633 P6s.ld.635 P6s.lc.637 P6s.ll.639 P6s.lf.63b",
  "P631.le.63d Pbl.ld.63f Pbl.lc.63h Pbl.ll.63j Pbl.lf.63l Pbl.mb.63n P39.mb.63p P39.ll.63r",
  "Pc0.ld.63t Pc0.lc.63v Pc0.ll.63x Pc0.lf.63z Pc0.mb.641 P3d.lc.643 P3d.mb.645 P3d.ll.647",
  "P3d.lf.649 Pq9.lv.64g Pq9.lw.64h P64g.lc.64i P64h.lc.64j P64g.ld.64k P64h.ld.64l P64g.n6.64m",
  "P64h.n6.64n Pqd.lv.64w Pqd.lw.64x P64w.lc.64y P64x.lc.64z P64w.ld.650 P64x.ld.651 Pqf.lv.65c",
  "Pqf.lw.65d P65c.lc.65e P65d.lc.65f P65c.ld.65g P65d.ld.65h P65c.n6.65i P65d.n6.65j Pqh.lv.65s",
  "Pqh.lw.65t P65s.lc.65u P65t.lc.65v P65s.ld.65w P65t.ld.65x P65s.n6.65y P65t.n6.65z Pqn.lv.668",
  "Pqn.lw.669 P668.lc.66a P669.lc.66b P668.ld.66c P669.ld.66d Pqt.lv.66o Pqt.lw.66p P66o.lc.66q",
  "P66p.lc.66r P66o.ld.66s P66p.ld.66t P66o.n6.66u P66p.n6.66v Pqx.lv.674 Pqx.lw.675 P674.lc.676",
  "P675.lc.677 P674.ld.678 P675.ld.679 P674.n6.67a P675.n6.67b Pq9.lc.67k Pqd.lc.67m Pqf.lc.67o",
  "Pqh.lc.67q Pqn.lc.67s Pqt.lc.67u Pqx.lc.67w Pq9.li.69c Pq9.lg.69d Pq9.n6.69i Pqf.n6.69y",
  "Pqh.li.6a8 Pqh.lg.6a9 Pqy.lc.6aa Pqh.n6.6ae Pqy.n6.6af Pqt.li.6ao Pqt.lg.6ap Pqz.lc.6aq",
  "Pqp.lv.6as Pqp.lw.6at Pqt.n6.6au Pqz.n6.6av Pqx.n6.6ba P6mo.mw.6my P6mq.mw.6mz P6ms.mw.6ni",
  "P6og.mw.6od P6ok.mw.6oe P6oi.mw.6of P6pv.mw.6pw P6q0.mw.6q1 P6q3.mw.6q4 P6qr.mw.6qs",
  "P6qt.mw.6qu P6rg.mw.6rl P6rn.mw.6ro P6rp.mw.6rr P6rs.mw.6rt P1p.mw.6sg P6sh.mw.6si",
  "P6rx.mw.6st P1o.mw.6su P1q.mw.6sv P6sk.mw.6sw P6sl.mw.6sx P6sy.mw.6t0 P6sz.mw.6t1 P6t2.mw.6t4",
  "P6t3.mw.6t5 P6t6.mw.6tc P6t7.mw.6td P6te.mw.6tg P6tf.mw.6th P6ti.mw.6tk P6tj.mw.6tl",
  "P6ua.mw.6uk P6ug.mw.6ul P6uh.mw.6um P6uj.mw.6un P6t8.mw.6w0 P6t9.mw.6w1 P6tt.mw.6w2",
  "P6tu.mw.6w3 P6uq.mw.6wa P6ur.mw.6wb P6us.mw.6wc P6ut.mw.6wd P9jf.9ll.9jg P9jh.9ll.9ji",
  "P9jj.9ll.9jk P9jl.9ll.9jm P9jn.9ll.9jo P9jp.9ll.9jq P9jr.9ll.9js P9jt.9ll.9ju P9jv.9ll.9jw",
  "P9jx.9ll.9jy P9jz.9ll.9k0 P9k1.9ll.9k2 P9k4.9ll.9k5 P9k6.9ll.9k7 P9k8.9ll.9k9 P9kf.9ll.9kg",
  "P9kf.9lm.9kh P9ki.9ll.9kj P9ki.9lm.9kk P9kl.9ll.9km P9kl.9lm.9kn P9ko.9ll.9kp P9ko.9lm.9kq",
  "P9kr.9ll.9ks P9kr.9lm.9kt P9ja.9ll.9lg P9lp.9ll.9lq P9m3.9ll.9m4 P9m5.9ll.9m6 P9m7.9ll.9m8",
  "P9m9.9ll.9ma P9mb.9ll.9mc P9md.9ll.9me P9mf.9ll.9mg P9mh.9ll.9mi P9mj.9ll.9mk P9ml.9ll.9mm",
  "P9mn.9ll.9mo P9mp.9ll.9mq P9ms.9ll.9mt P9mu.9ll.9mv P9mw.9ll.9mx P9n3.9ll.9n4 P9n3.9lm.9n5",
  "P9n6.9ll.9n7 P9n6.9lm.9n8 P9n9.9ll.9na P9n9.9lm.9nb P9nc.9ll.9nd P9nc.9lm.9ne P9nf.9ll.9ng",
  "P9nf.9lm.9nh P9ly.9ll.9o4 P9nz.9ll.9o7 P9o0.9ll.9o8 P9o1.9ll.9o9 P9o2.9ll.9oa P9od.9ll.9oe",
  "P1huh.1hve.1hui P1huj.1hve.1huk P1hut.1hve.1huz P1hyp.1hyf.1hym P1hyq.1hyf.1hyn",
  "P1idj.1ida.1idn P1idj.1idz.1ido P1int.1inu.1inv P1int.1ink.1inw P1int.1inx.1iny",
  "P1iuw.1iun.1iuy P1iux.1iun.1iuz P1jjp.1jjk.1jjs"]

/-- The combining classes of the characters. -/
def classes : Runs Nat := Runs.read (fun _ numbers => numbers.headD 0) classLines

def pairs : List ((Nat × Nat) × Nat) :=
  (Packed.rows pairLines).filterMap fun r =>
    match r.2 with
    | [first, second, composite] => some ((first, second), composite)
    | _ => none

end LongPoll.Text.Composition
