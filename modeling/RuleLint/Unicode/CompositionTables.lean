namespace RuleLint.Unicode

/-- A code point, the mark or letter behind it, and the code point that stands for both. -/
def compositionTable : List String := [
  "1t,lc,5c 1t,ld,5d 1t,le,5e 1t,lf,5f 1t,lk,5g 1t,lm,5h 1v,mf,5j 1x,lc,5k 1x,ld,5l 1x,le,5m",
  "1x,lk,5n 21,lc,5o 21,ld,5p 21,le,5q 21,lk,5r 26,lf,5t 27,lc,5u 27,ld,5v 27,le,5w 27,lf,5x",
  "27,lk,5y 2d,lc,61 2d,ld,62 2d,le,63 2d,lk,64 2h,ld,65 2p,lc,68 2p,ld,69 2p,le,6a 2p,lf,6b",
  "2p,lk,6c 2p,lm,6d 2r,mf,6f 2t,lc,6g 2t,ld,6h 2t,le,6i 2t,lk,6j 2x,lc,6k 2x,ld,6l 2x,le,6m",
  "2x,lk,6n 32,lf,6p 33,lc,6q 33,ld,6r 33,le,6s 33,lf,6t 33,lk,6u 39,lc,6x 39,ld,6y 39,le,6z",
  "39,lk,70 3d,ld,71 3d,lk,73 1t,lg,74 2p,lg,75 1t,li,76 2p,li,77 1t,mg,78 2p,mg,79 1v,ld,7a",
  "2r,ld,7b 1v,le,7c 2r,le,7d 1v,lj,7e 2r,lj,7f 1v,lo,7g 2r,lo,7h 1w,lo,7i 2s,lo,7j 1x,lg,7m",
  "2t,lg,7n 1x,li,7o 2t,li,7p 1x,lj,7q 2t,lj,7r 1x,mg,7s 2t,mg,7t 1x,lo,7u 2t,lo,7v 1z,le,7w",
  "2v,le,7x 1z,li,7y 2v,li,7z 1z,lj,80 2v,lj,81 1z,mf,82 2v,mf,83 20,le,84 2w,le,85 21,lf,88",
  "2x,lf,89 21,lg,8a 2x,lg,8b 21,li,8c 2x,li,8d 21,mg,8e 2x,mg,8f 21,lj,8g 22,le,8k 2y,le,8l",
  "23,mf,8m 2z,mf,8n 24,ld,8p 30,ld,8q 24,mf,8r 30,mf,8s 24,lo,8t 30,lo,8u 26,ld,8z 32,ld,90",
  "26,mf,91 32,mf,92 26,lo,93 32,lo,94 27,lg,98 33,lg,99 27,li,9a 33,li,9b 27,ln,9c 33,ln,9d",
  "2a,ld,9g 36,ld,9h 2a,mf,9i 36,mf,9j 2a,lo,9k 36,lo,9l 2b,ld,9m 37,ld,9n 2b,le,9o 37,le,9p",
  "2b,mf,9q 37,mf,9r 2b,lo,9s 37,lo,9t 2c,mf,9u 38,mf,9v 2c,lo,9w 38,lo,9x 2d,lf,a0 39,lf,a1",
  "2d,lg,a2 39,lg,a3 2d,li,a4 39,li,a5 2d,lm,a6 39,lm,a7 2d,ln,a8 39,ln,a9 2d,mg,aa 39,mg,ab",
  "2f,le,ac 3b,le,ad 2h,le,ae 3d,le,af 2h,lk,ag 2i,ld,ah 3e,ld,ai 2i,lj,aj 3e,lj,ak 2i,lo,al",
  "3e,lo,am 27,m3,bk 33,m3,bl 2d,m3,bz 39,m3,c0 1t,lo,ct 2p,lo,cu 21,lo,cv 2x,lo,cw 27,lo,cx",
  "33,lo,cy 2d,lo,cz 39,lo,d0 64,lg,d1 70,lg,d2 64,ld,d3 70,ld,d4 64,lo,d5 70,lo,d6 64,lc,d7",
  "70,lc,d8 5g,lg,da 6c,lg,db fa,lg,dc fb,lg,dd 5i,lg,de 6e,lg,df 1z,lo,di 2v,lo,dj 23,lo,dk",
  "2z,lo,dl 27,mg,dm 33,mg,dn dm,lg,do dn,lg,dp c7,lo,dq ia,lo,dr 2y,lo,ds 1z,ld,dw 2v,ld,dx",
  "26,lc,e0 32,lc,e1 5h,ld,e2 6d,ld,e3 5i,ld,e4 6e,ld,e5 60,ld,e6 6w,ld,e7 1t,lr,e8 2p,lr,e9",
  "1t,lt,ea 2p,lt,eb 1x,lr,ec 2t,lr,ed 1x,lt,ee 2t,lt,ef 21,lr,eg 2x,lr,eh 21,lt,ei 2x,lt,ej",
  "27,lr,ek 33,lr,el 27,lt,em 33,lt,en 2a,lr,eo 36,lr,ep 2a,lt,eq 36,lt,er 2d,lr,es 39,lr,et",
  "2d,lt,eu 39,lt,ev 2b,me,ew 37,me,ex 2c,me,ey 38,me,ez 20,lo,f2 2w,lo,f3 1t,lj,fa 2p,lj,fb",
  "1x,mf,fc 2t,mf,fd 5y,lg,fe 6u,lg,ff 5x,lg,fg 6t,lg,fh 27,lj,fi 33,lj,fj fi,lg,fk fj,lg,fl",
  "2h,lg,fm 3d,lg,fn 4o,ld,p1 pd,ld,p2 ph,ld,p4 pj,ld,p5 pl,ld,p6 pr,ld,p8 px,ld,pa q1,ld,pb",
  "qy,ld,pc pl,lk,q2 px,lk,q3 q9,ld,q4 qd,ld,q5 qf,ld,q6 qh,ld,q7 qz,ld,q8 qh,lk,qy qt,lk,qz",
  "qn,ld,r0 qt,ld,r1 qx,ld,r2 r6,ld,r7 r6,lk,r8 t1,lc,sg t1,lk,sh sz,ld,sj sm,lk,sn t6,ld,ss",
  "t4,lc,st tf,li,su t4,li,t5 u0,li,u1 tx,lc,uo tx,lk,up tv,ld,ur uu,lk,uv u2,ld,v0 u0,lc,v1",
  "ub,li,v2 vo,lr,vq vp,lr,vr t2,li,xt ty,li,xu sw,li,y8 ts,li,y9 sw,lk,ya ts,lk,yb t1,li,ye",
  "tx,li,yf yg,lk,yi yh,lk,yj t2,lk,yk ty,lk,yl t3,lk,ym tz,lk,yn t4,lg,yq u0,lg,yr t4,lk,ys",
  "u0,lk,yt ta,lk,yu u6,lk,yv yw,lk,yy yx,lk,yz tp,lk,z0 ul,lk,z1 tf,lg,z2 ub,lg,z3 tf,lk,z4",
  "ub,lk,z5 tf,ln,z6 ub,ln,z7 tj,lk,z8 uf,lk,z9 tn,lk,zc uj,lk,zd 17r,18z,17m 17r,190,17n",
  "18o,190,17o 17r,191,17p 18q,190,17q 1cl,190,1c0 1c1,190,1c2 1ci,190,1cj 1t4,1to,1t5 1tc,1to,1td",
  "1tf,1to,1tg 1xj,1xa,1xn 1xj,1xz,1xo 287,28m,288 287,27y,28b 287,28n,28c 2aa,2c7,2ac 2bq,2bi,2bu",
  "2br,2bi,2bv 2bq,2c7,2bw 2fa,2fq,2fc 2in,2j9,2io 2iu,2j9,2iv 2iu,2ja,2iw 2iu,2iq,2iy 2iy,2j9,2iz",
  "2me,2m6,2mi 2mf,2m6,2mj 2me,2mv,2mk 2qh,2q2,2qi 2qh,2q7,2qk 2qk,2q2,2ql 2qh,2qn,2qm 36t,372,36u",
  "5c5,5dh,5c6 5c7,5dh,5c8 5c9,5dh,5ca 5cb,5dh,5cc 5cd,5dh,5ce 5ch,5dh,5ci 5dm,5dh,5dn 5do,5dh,5dp",
  "5dq,5dh,5ds 5dr,5dh,5dt 5du,5dh,5dv 1t,md,5xc 2p,md,5xd 1u,lj,5xe 2q,lj,5xf 1u,mb,5xg 2q,mb,5xh",
  "1u,mp,5xi 2q,mp,5xj 5j,ld,5xk 6f,ld,5xl 1w,lj,5xm 2s,lj,5xn 1w,mb,5xo 2s,mb,5xp 1w,mp,5xq",
  "2s,mp,5xr 1w,mf,5xs 2s,mf,5xt 1w,ml,5xu 2s,ml,5xv 7m,lc,5xw 7n,lc,5xx 7m,ld,5xy 7n,ld,5xz",
  "1x,ml,5y0 2t,ml,5y1 1x,mo,5y2 2t,mo,5y3 fc,li,5y4 fd,li,5y5 1y,lj,5y6 2u,lj,5y7 1z,lg,5y8",
  "2v,lg,5y9 20,lj,5ya 2w,lj,5yb 20,mb,5yc 2w,mb,5yd 20,lk,5ye 2w,lk,5yf 20,mf,5yg 2w,mf,5yh",
  "20,mm,5yi 2w,mm,5yj 21,mo,5yk 2x,mo,5yl 5r,ld,5ym 6n,ld,5yn 23,ld,5yo 2z,ld,5yp 23,mb,5yq",
  "2z,mb,5yr 23,mp,5ys 2z,mp,5yt 24,mb,5yu 30,mb,5yv 5yu,lg,5yw 5yv,lg,5yx 24,mp,5yy 30,mp,5yz",
  "24,ml,5z0 30,ml,5z1 25,ld,5z2 31,ld,5z3 25,lj,5z4 31,lj,5z5 25,mb,5z6 31,mb,5z7 26,lj,5z8",
  "32,lj,5z9 26,mb,5za 32,mb,5zb 26,mp,5zc 32,mp,5zd 26,ml,5ze 32,ml,5zf 5x,ld,5zg 6t,ld,5zh",
  "5x,lk,5zi 6t,lk,5zj 98,lc,5zk 99,lc,5zl 98,ld,5zm 99,ld,5zn 28,ld,5zo 34,ld,5zp 28,lj,5zq",
  "34,lj,5zr 2a,lj,5zs 36,lj,5zt 2a,mb,5zu 36,mb,5zv 5zu,lg,5zw 5zv,lg,5zx 2a,mp,5zy 36,mp,5zz",
  "2b,lj,600 37,lj,601 2b,mb,602 37,mb,603 9m,lj,604 9n,lj,605 9s,lj,606 9t,lj,607 602,lj,608",
  "603,lj,609 2c,lj,60a 38,lj,60b 2c,mb,60c 38,mb,60d 2c,mp,60e 38,mp,60f 2c,ml,60g 38,ml,60h",
  "2d,mc,60i 39,mc,60j 2d,mo,60k 39,mo,60l 2d,ml,60m 39,ml,60n a0,ld,60o a1,ld,60p a2,lk,60q",
  "a3,lk,60r 2e,lf,60s 3a,lf,60t 2e,mb,60u 3a,mb,60v 2f,lc,60w 3b,lc,60x 2f,ld,60y 3b,ld,60z",
  "2f,lk,610 3b,lk,611 2f,lj,612 3b,lj,613 2f,mb,614 3b,mb,615 2g,lj,616 3c,lj,617 2g,lk,618",
  "3c,lk,619 2h,lj,61a 3d,lj,61b 2i,le,61c 3e,le,61d 2i,mb,61e 3e,mb,61f 2i,mp,61g 3e,mp,61h",
  "2w,mp,61i 38,lk,61j 3b,lm,61k 3d,lm,61l an,lj,61n 1t,mb,61s 2p,mb,61t 1t,ll,61u 2p,ll,61v",
  "5e,ld,61w 6a,ld,61x 5e,lc,61y 6a,lc,61z 5e,ll,620 6a,ll,621 5e,lf,622 6a,lf,623 61s,le,624",
  "61t,le,625 76,ld,626 77,ld,627 76,lc,628 77,lc,629 76,ll,62a 77,ll,62b 76,lf,62c 77,lf,62d",
  "61s,li,62e 61t,li,62f 1x,mb,62g 2t,mb,62h 1x,ll,62i 2t,ll,62j 1x,lf,62k 2t,lf,62l 5m,ld,62m",
  "6i,ld,62n 5m,lc,62o 6i,lc,62p 5m,ll,62q 6i,ll,62r 5m,lf,62s 6i,lf,62t 62g,le,62u 62h,le,62v",
  "21,ll,62w 2x,ll,62x 21,mb,62y 2x,mb,62z 27,mb,630 33,mb,631 27,ll,632 33,ll,633 5w,ld,634",
  "6s,ld,635 5w,lc,636 6s,lc,637 5w,ll,638 6s,ll,639 5w,lf,63a 6s,lf,63b 630,le,63c 631,le,63d",
  "bk,ld,63e bl,ld,63f bk,lc,63g bl,lc,63h bk,ll,63i bl,ll,63j bk,lf,63k bl,lf,63l bk,mb,63m",
  "bl,mb,63n 2d,mb,63o 39,mb,63p 2d,ll,63q 39,ll,63r bz,ld,63s c0,ld,63t bz,lc,63u c0,lc,63v",
  "bz,ll,63w c0,ll,63x bz,lf,63y c0,lf,63z bz,mb,640 c0,mb,641 2h,lc,642 3d,lc,643 2h,mb,644",
  "3d,mb,645 2h,ll,646 3d,ll,647 2h,lf,648 3d,lf,649 q9,lv,64g q9,lw,64h 64g,lc,64i 64h,lc,64j",
  "64g,ld,64k 64h,ld,64l 64g,n6,64m 64h,n6,64n pd,lv,64o pd,lw,64p 64o,lc,64q 64p,lc,64r",
  "64o,ld,64s 64p,ld,64t 64o,n6,64u 64p,n6,64v qd,lv,64w qd,lw,64x 64w,lc,64y 64x,lc,64z",
  "64w,ld,650 64x,ld,651 ph,lv,654 ph,lw,655 654,lc,656 655,lc,657 654,ld,658 655,ld,659 qf,lv,65c",
  "qf,lw,65d 65c,lc,65e 65d,lc,65f 65c,ld,65g 65d,ld,65h 65c,n6,65i 65d,n6,65j pj,lv,65k pj,lw,65l",
  "65k,lc,65m 65l,lc,65n 65k,ld,65o 65l,ld,65p 65k,n6,65q 65l,n6,65r qh,lv,65s qh,lw,65t",
  "65s,lc,65u 65t,lc,65v 65s,ld,65w 65t,ld,65x 65s,n6,65y 65t,n6,65z pl,lv,660 pl,lw,661",
  "660,lc,662 661,lc,663 660,ld,664 661,ld,665 660,n6,666 661,n6,667 qn,lv,668 qn,lw,669",
  "668,lc,66a 669,lc,66b 668,ld,66c 669,ld,66d pr,lv,66g pr,lw,66h 66g,lc,66i 66h,lc,66j",
  "66g,ld,66k 66h,ld,66l qt,lv,66o qt,lw,66p 66o,lc,66q 66p,lc,66r 66o,ld,66s 66p,ld,66t",
  "66o,n6,66u 66p,n6,66v px,lw,66x 66x,lc,66z 66x,ld,671 66x,n6,673 qx,lv,674 qx,lw,675 674,lc,676",
  "675,lc,677 674,ld,678 675,ld,679 674,n6,67a 675,n6,67b q1,lv,67c q1,lw,67d 67c,lc,67e",
  "67d,lc,67f 67c,ld,67g 67d,ld,67h 67c,n6,67i 67d,n6,67j q9,lc,67k qd,lc,67m qf,lc,67o qh,lc,67q",
  "qn,lc,67s qt,lc,67u qx,lc,67w 64g,n9,680 64h,n9,681 64i,n9,682 64j,n9,683 64k,n9,684 64l,n9,685",
  "64m,n9,686 64n,n9,687 64o,n9,688 64p,n9,689 64q,n9,68a 64r,n9,68b 64s,n9,68c 64t,n9,68d",
  "64u,n9,68e 64v,n9,68f 65c,n9,68g 65d,n9,68h 65e,n9,68i 65f,n9,68j 65g,n9,68k 65h,n9,68l",
  "65i,n9,68m 65j,n9,68n 65k,n9,68o 65l,n9,68p 65m,n9,68q 65n,n9,68r 65o,n9,68s 65p,n9,68t",
  "65q,n9,68u 65r,n9,68v 674,n9,68w 675,n9,68x 676,n9,68y 677,n9,68z 678,n9,690 679,n9,691",
  "67a,n9,692 67b,n9,693 67c,n9,694 67d,n9,695 67e,n9,696 67f,n9,697 67g,n9,698 67h,n9,699",
  "67i,n9,69a 67j,n9,69b q9,li,69c q9,lg,69d 67k,n9,69e q9,n9,69f q4,n9,69g q9,n6,69i 69i,n9,69j",
  "pd,li,69k pd,lg,69l pd,lc,69m pd,n9,69o 4o,n6,69t 67o,n9,69u qf,n9,69v q6,n9,69w qf,n6,69y",
  "69y,n9,69z ph,lc,6a0 pj,lc,6a2 pj,n9,6a4 69r,lc,6a5 69r,ld,6a6 69r,n6,6a7 qh,li,6a8 qh,lg,6a9",
  "qy,lc,6aa qh,n6,6ae qy,n6,6af pl,li,6ag pl,lg,6ah pl,lc,6ai 6bi,lc,6al 6bi,ld,6am 6bi,n6,6an",
  "qt,li,6ao qt,lg,6ap qz,lc,6aq qp,lv,6as qp,lw,6at qt,n6,6au qz,n6,6av px,li,6aw px,lg,6ax",
  "px,lc,6ay pt,lw,6b0 4o,lc,6b1 67w,n9,6b6 qx,n9,6b7 r2,n9,6b8 qx,n6,6ba 6ba,n9,6bb pr,lc,6bc",
  "q1,lc,6be q1,n9,6bg 6mo,mw,6my 6mq,mw,6mz 6ms,mw,6ni 6og,mw,6od 6ok,mw,6oe 6oi,mw,6of",
  "6pv,mw,6pw 6q0,mw,6q1 6q3,mw,6q4 6qr,mw,6qs 6qt,mw,6qu 6rg,mw,6rl 6rn,mw,6ro 6rp,mw,6rr",
  "6rs,mw,6rt 1p,mw,6sg 6sh,mw,6si 6rx,mw,6st 1o,mw,6su 1q,mw,6sv 6sk,mw,6sw 6sl,mw,6sx 6sy,mw,6t0",
  "6sz,mw,6t1 6t2,mw,6t4 6t3,mw,6t5 6t6,mw,6tc 6t7,mw,6td 6te,mw,6tg 6tf,mw,6th 6ti,mw,6tk",
  "6tj,mw,6tl 6ua,mw,6uk 6ug,mw,6ul 6uh,mw,6um 6uj,mw,6un 6t8,mw,6w0 6t9,mw,6w1 6tt,mw,6w2",
  "6tu,mw,6w3 6uq,mw,6wa 6ur,mw,6wb 6us,mw,6wc 6ut,mw,6wd 9jf,9ll,9jg 9jh,9ll,9ji 9jj,9ll,9jk",
  "9jl,9ll,9jm 9jn,9ll,9jo 9jp,9ll,9jq 9jr,9ll,9js 9jt,9ll,9ju 9jv,9ll,9jw 9jx,9ll,9jy 9jz,9ll,9k0",
  "9k1,9ll,9k2 9k4,9ll,9k5 9k6,9ll,9k7 9k8,9ll,9k9 9kf,9ll,9kg 9kf,9lm,9kh 9ki,9ll,9kj 9ki,9lm,9kk",
  "9kl,9ll,9km 9kl,9lm,9kn 9ko,9ll,9kp 9ko,9lm,9kq 9kr,9ll,9ks 9kr,9lm,9kt 9ja,9ll,9lg 9lp,9ll,9lq",
  "9m3,9ll,9m4 9m5,9ll,9m6 9m7,9ll,9m8 9m9,9ll,9ma 9mb,9ll,9mc 9md,9ll,9me 9mf,9ll,9mg 9mh,9ll,9mi",
  "9mj,9ll,9mk 9ml,9ll,9mm 9mn,9ll,9mo 9mp,9ll,9mq 9ms,9ll,9mt 9mu,9ll,9mv 9mw,9ll,9mx 9n3,9ll,9n4",
  "9n3,9lm,9n5 9n6,9ll,9n7 9n6,9lm,9n8 9n9,9ll,9na 9n9,9lm,9nb 9nc,9ll,9nd 9nc,9lm,9ne 9nf,9ll,9ng",
  "9nf,9lm,9nh 9ly,9ll,9o4 9nz,9ll,9o7 9o0,9ll,9o8 9o1,9ll,9o9 9o2,9ll,9oa 9od,9ll,9oe",
  "1fpu,lj,1fpl 1fq2,lj,1fqc 1huh,1hve,1hui 1huj,1hve,1huk 1hut,1hve,1huz 1hyp,1hyf,1hym",
  "1hyq,1hyf,1hyn 1idj,1ida,1idn 1idj,1idz,1ido 1if6,1ih5,1if7 1if8,1igr,1if9 1iff,1igy,1ifi",
  "1ifk,1ih5,1ifl 1igy,1igy,1ih1 1igy,1igo,1ih3 1igy,1ih5,1ih4 1int,1inu,1inv 1int,1ink,1inw",
  "1int,1inx,1iny 1iuw,1iun,1iuy 1iux,1iun,1iuz 1jjp,1jjk,1jjs 1xr2,1xr2,1xr5 1xr2,1xrd,1xr6",
  "1xr2,1xr3,1xr7 1xrd,1xr3,1xr8 1xr2,1xr4,1xr9 1xr5,1xr3,1xra 1xr6,1xr3,1xrb 1xr5,1xr4,1xrc",
  "206f,206f,206g 206b,206f,206h 206h,206f,206i"]

/-- Stretches of combining characters: the first, how many there are, and their combining class. -/
def combiningTable : List String := [
  "lc,l,6e lx,1,6g ly,4,64 m2,1,6g m3,1,60 m4,5,64 m9,2,5m mb,4,64 mf,2,5m mh,b,64 ms,5,1 mx,4,64",
  "n1,8,6e n9,1,6o na,1,6e nb,3,64 ne,3,6e nh,2,64 nk,3,6e nn,4,64 nr,1,6e ns,1,6g nt,2,64 nv,1,6e",
  "nw,1,6h nx,2,6i nz,1,6h o0,2,6i o2,1,6h o3,d,6e w3,5,6e 13l,1,64 13m,4,6e 13q,1,64 13r,3,6e",
  "13u,1,66 13v,1,64 13w,6,6e 142,6,64 148,2,6e 14a,1,64 14b,2,6e 14d,1,66 14e,1,6c 14f,1,6e",
  "14g,1,a 14h,1,b 14i,1,c 14j,1,d 14k,1,e 14l,1,f 14m,1,g 14n,1,h 14o,1,i 14p,2,j 14r,1,k 14s,1,l",
  "14t,1,m 14v,1,n 14x,1,o 14y,1,p 150,1,6e 151,1,64 153,1,i 174,8,6e 17c,1,u 17d,1,v 17e,1,w",
  "18r,1,r 18s,1,s 18t,1,t 18u,1,u 18v,1,v 18w,1,w 18x,1,x 18y,1,y 18z,2,6e 191,2,64 193,5,6e",
  "198,1,64 199,2,6e 19b,1,64 19s,1,z 1cm,7,6e 1cv,4,6e 1cz,1,64 1d0,1,6e 1d3,2,6e 1d6,1,64",
  "1d7,2,6e 1d9,1,64 1e9,1,10 1f4,1,6e 1f5,1,64 1f6,2,6e 1f8,1,64 1f9,2,6e 1fb,3,64 1fe,1,6e",
  "1ff,2,64 1fh,1,6e 1fi,1,64 1fj,3,6e 1fm,1,64 1fn,1,6e 1fo,1,64 1fp,1,6e 1fq,1,64 1fr,1,6e",
  "1fs,1,64 1ft,2,6e 1kb,7,6e 1ki,1,64 1kj,1,6e 1kt,1,64 1li,4,6e 1ln,9,6e 1lx,3,6e 1m1,5,6e",
  "1nd,3,64 1p4,1,6e 1p5,3,64 1p8,4,6e 1qi,5,6e 1qn,5,64 1qs,e,6e 1r7,1,64 1r8,2,6e 1ra,1,64",
  "1rb,2,6e 1rd,1,64 1re,3,6e 1rh,3,64 1rk,1,r 1rl,1,s 1rm,1,t 1rn,3,6e 1rq,1,64 1rr,2,6e 1rt,2,64",
  "1rv,5,6e 1to,1,7 1u5,1,9 1u9,1,6e 1ua,1,64 1ub,2,6e 1x8,1,7 1xp,1,9 1z2,1,6e 20s,1,7 219,1,9",
  "24c,1,7 24t,1,9 27w,1,7 28d,1,9 2bx,1,9 2f0,1,7 2fh,1,9 2fp,1,2c 2fq,1,2j 2ik,1,7 2j1,1,9",
  "2m3,2,9 2ml,1,9 2q2,1,9 2t4,2,2v 2t6,1,9 2tk,4,2z 2wo,2,3a 2wq,1,9 2x4,4,3e 2zc,2,64 305,1,64",
  "307,1,64 309,1,60 31t,1,3l 31u,1,3m 31w,1,3o 322,4,3m 328,1,3m 32a,2,6e 32c,1,9 32e,2,6e",
  "346,1,64 37b,1,7 37d,2,9 39p,1,64 3tp,3,6e 4k4,2,9 4l0,1,9 4pe,1,9 4pp,1,6e 4vd,1,6c 4zd,1,66",
  "4ze,1,6e 4zf,1,64 55j,1,6e 55k,1,64 57k,1,9 585,8,6e 58f,1,64 59s,5,6e 59x,6,64 5a3,2,6e",
  "5a5,1,64 5a7,2,64 5a9,2,6e 5ab,2,64 5ad,5,6e 5ai,1,64 5aj,4,6e 5dg,1,7 5dw,1,9 5ez,1,6e",
  "5f0,1,64 5f1,7,6e 5gq,2,9 5ie,1,7 5iq,2,9 5kn,1,7 5ow,3,6e 5p0,1,1 5p1,5,64 5p6,2,6e 5p8,4,64",
  "5pc,1,6e 5pe,7,1 5pp,1,64 5pw,1,6e 5q0,2,6e 5vk,2,6e 5vm,1,64 5vn,7,6e 5vu,1,64 5vv,2,6e",
  "5vx,1,6i 5vy,1,5y 5vz,1,64 5w0,1,5m 5w1,11,6e 5x2,1,6g 5x3,2,6c 5x5,1,64 5x6,1,62 5x7,1,6e",
  "5x8,1,6h 5x9,1,64 5xa,1,6e 5xb,1,64 6hc,2,6e 6he,2,1 6hg,4,6e 6hk,3,1 6hn,2,6e 6ht,1,6e 6hx,2,1",
  "6hz,1,6e 6i0,1,64 6i1,1,6e 6i2,2,1 6i4,4,64 6i8,1,6e 8vj,3,6e 8zj,1,9 928,w,6e 9ii,1,62",
  "9ij,1,6c 9ik,1,6g 9il,1,66 9im,2,68 9ll,2,8 wvj,1,6e wvo,a,6e wwu,2,6e wz4,2,6e x6u,1,9 x7w,1,9",
  "xc4,1,9 xcw,i,6e xez,3,64 xg3,1,9 xir,1,7 xj4,1,9 xps,1,6e xpu,2,6e xpw,1,64 xpz,2,6e xq6,2,6e",
  "xq9,1,6e xrq,1,9 xyl,1,9 1dlq,1,q 1e74,7,6e 1e7b,7,64 1e7i,2,6e 1eyl,1,64 1f4w,1,64 1f92,5,6e",
  "1gjx,1,64 1gjz,1,6e 1gl4,1,6e 1gl5,1,1 1gl6,1,64 1glb,1,9 1gpx,1,6e 1gpy,1,64 1h5w,4,6e",
  "1hgr,2,6e 1hj1,3,64 1hl2,2,64 1hl4,3,6e 1hl7,1,64 1hl8,1,6e 1hl9,4,64 1hmq,1,6e 1hmr,1,64",
  "1hms,1,6e 1hmt,1,64 1hs6,1,9 1htc,1,9 1htr,1,9 1hvd,1,9 1hve,1,7 1hxc,3,6e 1hyr,2,9 1i0j,1,7",
  "1i2o,1,9 1i2y,1,7 1i5x,1,9 1i5y,1,7 1iax,1,7 1iay,1,9 1id7,2,7 1idp,1,9 1iee,7,6e 1ieo,5,6e",
  "1iki,1,9 1ikm,1,7 1ila,1,6e 1io2,1,9 1io3,1,7 1iv3,1,9 1iv4,1,7 1iyn,1,9 1j1y,1,9 1j1z,1,7",
  "1j57,1,9 1jcp,1,9 1jcq,1,7 1jjx,2,9 1jk3,1,7 1jog,1,9 1jqs,1,9 1jrb,1,9 1jtl,1,9 1k5b,1,9",
  "1kci,1,7 1kck,2,9 1kev,1,9 1kqp,2,9 1zow,5,1 1zqo,7,6e 20og,2,6 2ftq,1,1 2jxh,2,60 2jxj,3,1",
  "2jxp,1,6a 2jxq,5,60 2jy3,8,64 2jyd,5,6e 2jyi,2,64 2jze,4,6e 2k3m,3,6e 2mtc,7,6e 2mtk,h,6e",
  "2mu3,7,6e 2mub,2,6e 2mue,5,6e 2mxb,1,6e 2n1s,7,6e 2nce,1,6e 2ne4,4,6e 2nsc,2,6g 2nse,1,64",
  "2nsf,1,6e 2ok0,7,64 2on8,6,6e 2one,1,7"]

end RuleLint.Unicode
